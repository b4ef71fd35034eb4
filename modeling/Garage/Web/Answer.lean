import Garage.Crash
import Garage.Failure
import Garage.Html.Pages
import Garage.Http.Request
import Garage.Username
import Garage.Web.Route

/-!
How a request is answered. A request is answered at once, or through one lookup of a canonical username;
which of the two, and what the answer makes of the lookup's result, is a value of its own, so that any
service can be put in its place.
-/

namespace Garage.Web

/-- What a service says of a username. -/
abbrev Lookup := Except Failure Details

/-- What a request asks for. -/
inductive Plan where
  | answer (reply : Reply)
  /-- The vehicle of a user is looked up, and `finish` answers with the result. -/
  | lookup (username : String) (finish : Lookup → Reply)

def plainText : String := "text/plain; charset=utf-8"

def htmlText : String := "text/html; charset=utf-8"

namespace View

def found (view : View) (username : String) (d : Details) : Http.Response :=
  match view with
  | page => .typed 200 htmlText (Html.vehiclePage username d)
  | text => .typed 200 plainText d.display
  | json => .typed 200 "application/json" d.toJson

/-- A failure in this view: only the page has a form of its own for a missing vehicle. -/
def failed (view : View) (f : Failure) : Reply :=
  match view, f with
  | page, .userNotFound username => ⟨.typed 404 htmlText (Html.notFoundPage username), []⟩
  | _, f => f.reply

def reply (view : View) (username : String) : Lookup → Reply
  | .ok d => ⟨view.found username d, []⟩
  | .error f => view.failed f

end View

/-- The answer to a path that no route has. -/
def unknownPath (path : List Char) : Http.Response :=
  match path with
  | '/' :: _ => ⟨404, [], ""⟩
  | _ => (⟨404, [], ""⟩ : Http.Response).measured

/-- The answer to a method that a route does not take. -/
def unknownMethod : Http.Response :=
  (⟨405, [("allow", "GET,HEAD")], ""⟩ : Http.Response).measured

/-- The answer to a username whose bytes are no text. -/
def undecodable : Http.Response :=
  .typed 400 plainText "Invalid URL: Invalid UTF-8 in \x60username\x60"

/-- The note made before a lookup. -/
def lookingUp (username : String) : Note :=
  ⟨.debug, .views, s!"Looking up vehicle for {username}"⟩

/-- Finishes the answer of a route: its length is noted, and then a `HEAD` loses its body. -/
def complete (method : Http.Method) (r : Reply) : Reply :=
  let response := r.response.measured
  { r with response := if method = .head then response.withoutBody else response }

/-- What a `GET` or `HEAD` of a route asks for. -/
def planRoute (method : Http.Method) (route : Route) : Plan :=
  match route.username? with
  | none => .answer (complete method ⟨undecodable, []⟩)
  | some name =>
    match Username.canonical name with
    | .error fault => .answer (complete method (Failure.badRequest fault.reason).reply)
    | .ok username => .lookup username fun result => complete method (route.view.reply username result)

/-- What a request asks for. -/
def plan (r : Http.Request) : Plan :=
  match Route.ofPath? r.path with
  | none => .answer ⟨unknownPath r.path, []⟩
  | some route =>
    match r.method with
    | .other _ => .answer ⟨unknownMethod, []⟩
    | method => planRoute method route

/-- What came of a request: a response or a crash, and the notes made until then. -/
structure Outcome where
  result : Except Crash Http.Response
  log : Log

namespace Plan

def username? : Plan → Option String
  | answer _ => none
  | lookup username _ => some username

/-- Carries a plan out with a service that never crashes and keeps no state. -/
def reply (service : String → Lookup) : Plan → Reply
  | answer r => r
  | lookup username finish =>
    let r := finish (service username)
    ⟨r.response, lookingUp username :: r.log⟩

/-- Carries a plan out with a service that has a state and may crash. -/
def run {σ : Type} (service : String → σ → Except Crash Lookup × σ) : Plan → σ → Outcome × σ
  | answer r, s => (⟨.ok r.response, r.log⟩, s)
  | lookup username finish, s =>
    match service username s with
    | (.ok result, s) =>
      let r := finish result
      (⟨.ok r.response, lookingUp username :: r.log⟩, s)
    | (.error crash, s) => (⟨.error crash, [lookingUp username]⟩, s)

end Plan

end Garage.Web
