import Garage.Location.Session
import Garage.Options.Register
import Garage.Registry

/-! The two programs: registering a vehicle, and starting the server up to the point where it listens. -/

namespace Garage.Program

open Garage.Location (FileTree Session)
open Garage.Options (Environment Refusal Command)

/-- What a program leaves: its exit code, and what it wrote. -/
structure Exit where
  code : Nat
  output : String
  errors : String
  deriving DecidableEq, Repr

/-- The notes that are written: all of them, or those above the level for finding faults. -/
def shown (debug : Bool) (log : Log) : Log :=
  if debug then log else log.filter fun n => n.level != .debug

def logLines (debug : Bool) (log : Log) : String :=
  String.join ((shown debug log).map fun n => n.line ++ "\n")

/-- Text in which each line after the first is indented. -/
def indentRest (indent s : String) : String :=
  ("\n" ++ indent).intercalate (s.splitOn "\n")

/-- A failure with what caused it; causes are numbered if there are several. -/
def report (top : String) (causes : List String) : String :=
  let lines := match causes with
    | [cause] => ["    " ++ indentRest "    " cause]
    | _ => causes.zipIdx.map fun (cause, i) => s!"    {i}: " ++ indentRest "       " cause
  "Error: " ++ top ++ (if causes.isEmpty then "" else "\n\nCaused by:\n" ++ "\n".intercalate lines) ++ "\n"

/-- A cause and what lies behind it, in words. -/
def causeChain (c : Store.Cause) : List String :=
  c.message :: c.root?.toList.flatMap fun root => [c.message, root]

/-- An error and what it passes on, in words. -/
def chain (e : Store.Error) : List String :=
  e.message :: e.cause?.toList.flatMap causeChain

/-- How a program ends whose arguments are refused. The words for a wrong use are not given here. -/
def refused (c : Command) (env : Environment) (r : Refusal) : Exit :=
  match r with
  | .help long => ⟨r.exitCode, Options.Help.render c long env, ""⟩
  | _ => ⟨r.exitCode, "", ""⟩

/-- Registers a vehicle in a session. Where nothing can be changed, it fails at the point of the change, and
the note of success is not made. -/
def registerIn (s : Session) (name : String) (d : Details) (files : FileTree) :
    Registry.Registration × FileTree :=
  let r := Registry.register s.database name d
  match r.result with
  | .error _ => (r, files)
  | .ok () =>
    if s.readOnly then
      (⟨.error (.database (.execution Location.isReadOnly)), r.log.dropLast, s.database⟩, files)
    else (r, files.save { s with database := r.database })

def register (arguments : List String) (env : Environment) (files : FileTree) : Exit × FileTree :=
  match Options.RegisterOptions.parse arguments env with
  | .error r => (refused Options.registerCommand env r, files)
  | .ok o =>
    match files.connect o.databasePath with
    | (.error e, files) => (⟨1, "", report ("opening " ++ o.databasePath) (chain e)⟩, files)
    | (.ok session, files) =>
      match files.migrate session with
      | (.error e, files) => (⟨1, "", report "running migrations" (chain e)⟩, files)
      | (.ok session, files) =>
        let (r, files) := registerIn session o.username o.details files
        let notes := logLines o.debug r.log
        match r.result with
        | .ok () =>
          (⟨0, notes ++ o.username ++ " now drives a " ++ o.details.display ++ ".\n", ""⟩, files)
        | .error f => (⟨1, notes, report f.message ((f.source?.map chain).getD [])⟩, files)

/-- Why the server cannot listen: nothing allows it to. -/
def listenFault : String := "Permission denied (os error 13)"

def starting (address : String) (port : Nat) : Note :=
  ⟨.info, .web, s!"Starting server on http://{address}:{port}"⟩

def fault (text : String) : Note :=
  ⟨.error, .program, text⟩

/-- Starts the server where it may not listen, so that it stops before it serves. -/
def serve (arguments : List String) (env : Environment) (files : FileTree) : Exit × FileTree :=
  match Options.ServerOptions.parse arguments env with
  | .error r => (refused Options.serverCommand env r, files)
  | .ok o =>
    let ended (log : Log) : Exit := ⟨0, logLines o.debug log, ""⟩
    match files.connect o.databasePath with
    | (.error e, files) => (ended [fault ("Database connection error: " ++ e.message)], files)
    | (.ok session, files) =>
      match files.migrate session with
      | (.error e, files) => (ended [fault ("Database migration error: " ++ e.message)], files)
      | (.ok _, files) =>
        (ended [starting o.listenAddress o.port, fault ("Application error: " ++ listenFault)], files)

end Garage.Program
