import DeliveryCheck.Command.Environment
import DeliveryCheck.Command.Options
import DeliveryCheck.Config.Basic

namespace DeliveryCheck.Command.Options

def overlay (options : Options) (environment : Environment) (config : Config) : Config :=
  { config with
    database :=
      { config.database with
        url := (options.databaseUrl.or environment.databaseUrl?).getD config.database.url
        table := options.table.getD config.database.table }
    run := { config.run with concurrent := config.run.concurrent || options.concurrent } }

def effective (options : Options) (environment : Environment) (config : Config) :
    Except Error Config := do
  let config := options.overlay environment config
  config.check
  return config

/-- The log file that is wanted, if any; an option without a path means the usual one. -/
def logPath? (options : Options) (environment : Environment) (config : Config) : Option String :=
  match options.logFile with
  | some (some path) => some path
  | some none => environment.logPath?
  | none => config.logging.file

end DeliveryCheck.Command.Options
