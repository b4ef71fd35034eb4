import Garage.Options.Help
import Garage.Text.Quoted

/-! The options of the server. -/

namespace Garage.Options

/-- Where the database lives unless told otherwise. -/
def defaultDatabase : String := "uservehicle.sqlite"

def serverCommand : Command where
  name := "uservehicle"
  about := "CLI Options"
  longAbout := none
  positionals := []
  switches := [
    ⟨"debug", none, .flag, "USERVEHICLE_DEBUG", none, "Enable debug logging"⟩,
    ⟨"port", some 'p', .port, "USERVEHICLE_PORT", some "9000",
      "http listener, defaults to \x609000\x60. Env: USERVEHICLE_PORT"⟩,
    ⟨"listen-address", some 'l', .text, "USERVEHICLE_LISTEN_ADDRESS", some "127.0.0.1",
      "Listen address, defaults to \x60127.0.0.1\x60. Env: USERVEHICLE_LISTEN_ADDRESS"⟩,
    ⟨"database-path", some 'd', .text, "USERVEHICLE_DATABASE_PATH", some defaultDatabase,
      "Path to the database file, eg \x60/data/uservehicle.sqlite\x60. Env: USERVEHICLE_DATABASE_PATH"⟩]

structure ServerOptions where
  debug : Bool
  port : Nat
  listenAddress : String
  databasePath : String
  deriving DecidableEq, Repr

namespace ServerOptions

def ofSettings (s : Settings) : ServerOptions where
  debug := s.get "debug" = "true"
  port := (port? (s.get "port")).getD 0
  listenAddress := s.get "listen-address"
  databasePath := s.get "database-path"

/-- Reads the server's command line. -/
def parse (arguments : List String) (env : Environment) : Except Refusal ServerOptions :=
  (serverCommand.settings arguments env).map ofSettings

/-- The options by field, the texts quoted. -/
def inspect (o : ServerOptions) : String :=
  "CliOptions \x7b debug: " ++ toString o.debug ++ ", port: " ++ toString o.port ++
    ", listen_address: " ++ Text.quoted o.listenAddress ++
    ", database_path: " ++ Text.quoted o.databasePath ++ " \x7d"

end ServerOptions

end Garage.Options
