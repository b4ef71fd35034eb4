/-! What the program notes while it works. -/

namespace Garage

/-- How much a note matters. -/
inductive Level where
  | debug
  | info
  | error
  deriving DecidableEq, Repr

def Level.name : Level → String
  | debug => "DEBUG"
  | info => "INFO"
  | error => "ERROR"

/-- The part of the program that a note comes from. -/
inductive Area where
  /-- Starting and stopping. -/
  | program
  /-- Serving. -/
  | web
  | views
  | vehicles
  /-- Failures answered to a client. -/
  | failures
  deriving DecidableEq, Repr

def Area.name : Area → String
  | program => "uservehicle"
  | web => "uservehicle::web"
  | views => "uservehicle::web::views"
  | vehicles => "uservehicle::vehicles"
  | failures => "uservehicle::error"

structure Note where
  level : Level
  area : Area
  text : String
  deriving DecidableEq, Repr

/-- Notes in the order in which they were made. -/
abbrev Log := List Note

/-- A note as one line: the level in five columns, the area, the text. -/
def Note.line (n : Note) : String :=
  let level := n.level.name
  level ++ String.ofList (List.replicate (5 - level.length) ' ') ++ " [" ++ n.area.name ++ "] " ++ n.text

end Garage
