import Garage.Text.Percent

/-! The paths that show a vehicle: a username, `/vehicle`, and an ending that picks the view. -/

namespace Garage.Web

/-- A way to show a vehicle. -/
inductive View where
  | page
  | text
  | json
  deriving DecidableEq, Repr

/-- The path of a view after the username. -/
def View.tail : View → String
  | page => "/vehicle.html"
  | text => "/vehicle"
  | json => "/vehicle.json"

/-- The view whose path ends like this. -/
def View.ofTail? (tail : List Char) : Option View :=
  [page, text, json].find? fun v => v.tail.toList == tail

/-- A path that shows a vehicle. -/
structure Route where
  /-- The username as it stands in the path, escapes and all; it may be empty. -/
  segment : List Char
  view : View
  deriving DecidableEq, Repr

namespace Route

/-- Reads a path. Nothing is decoded before, and case matters. -/
def ofPath? : List Char → Option Route
  | '/' :: r =>
    (View.ofTail? (r.dropWhile (· != '/'))).map fun view => ⟨r.takeWhile (· != '/'), view⟩
  | _ => none

def path (r : Route) : List Char :=
  '/' :: r.segment ++ r.view.tail.toList

/-- The username of a route, if its decoded bytes are a text. -/
def username? (r : Route) : Option String :=
  (Text.Utf8.decode? (Text.Percent.decode r.segment)).map String.ofList

/-- Reading the path of a route gives the route back. -/
theorem ofPath?_path (r : Route) (h : '/' ∉ r.segment) : ofPath? r.path = some r := by
  obtain ⟨segment, view⟩ := r
  have ht : ∀ c ∈ segment, (c != '/') = true := by
    intro c hc
    simp only [bne_iff_ne, ne_eq]
    rintro rfl
    exact h hc
  cases view <;>
    simp [path, ofPath?, View.tail, List.takeWhile_append_of_pos ht, List.dropWhile_append_of_pos ht,
      View.ofTail?]

end Route

end Garage.Web
