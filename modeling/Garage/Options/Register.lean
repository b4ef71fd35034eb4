import Garage.Details
import Garage.Options.Server

/-! The arguments of the command that registers a vehicle. -/

namespace Garage.Options

/-- The command that registers a vehicle. -/
def registerCommand : Command where
  name := "register_vehicle"
  about := "Register a vehicle for a user"
  longAbout := some "Register a vehicle for a user.\n\nregister_vehicle sboot Honda Civic"
  positionals := [
    ⟨"USERNAME", "Username the vehicle belongs to"⟩,
    ⟨"MAKE", "Manufacturer, eg Honda"⟩,
    ⟨"MODEL", "Model, eg Civic"⟩]
  switches := [
    ⟨"database-path", none, .text, "USERVEHICLE_DATABASE_PATH", some defaultDatabase,
      "Path to the database file"⟩,
    ⟨"debug", none, .flag, "USERVEHICLE_DEBUG", none, "Enable debug logging"⟩]

/-- What is to be registered, and where. -/
structure RegisterOptions where
  username : String
  details : Details
  databasePath : String
  debug : Bool
  deriving DecidableEq, Repr

namespace RegisterOptions

/-- The arguments that settled values mean. -/
def ofSettings (s : Settings) : RegisterOptions where
  username := s.positionals.getD 0 ""
  details := ⟨s.positionals.getD 1 "", s.positionals.getD 2 ""⟩
  databasePath := s.get "database-path"
  debug := s.get "debug" = "true"

/-- Reads the command line. -/
def parse (arguments : List String) (env : Environment) : Except Refusal RegisterOptions :=
  (registerCommand.settings arguments env).map ofSettings

end RegisterOptions

end Garage.Options
