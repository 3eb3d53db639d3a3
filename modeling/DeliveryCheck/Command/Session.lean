import DeliveryCheck.Command.Arguments
import DeliveryCheck.Command.Effective
import DeliveryCheck.Command.Help
import DeliveryCheck.Command.Host
import DeliveryCheck.Config.Document
import DeliveryCheck.Files.Path
import DeliveryCheck.Scenario.Listing
import DeliveryCheck.Sql.Store
/-!
A session from its arguments to its exit status: the settings, the log file, the scenarios, the
database, the run. The log file is opened before the scenarios are read, and a log that cannot be
opened is only warned of.
-/

namespace DeliveryCheck.Command.Session

variable {m : Type → Type} [Monad m] (host : Host m)

def text (path : String) : ExceptT Error m String := do
  match ← host.read path with
  | .ok content => return content
  | .error fault => throw (.unreadable path fault.message)

def fileConfig (path : String) : ExceptT Error m Config := do Config.ofToml (← text host path)

def baseConfig (options : Options) : ExceptT Error m Config := do
  match options.config with
  | some path => fileConfig host path
  | none =>
    match host.environment.configPath? with
    | some path => if ← host.contains path then fileConfig host path else return {}
    | none => return {}

def config (options : Options) : ExceptT Error m Config := do
  options.effective host.environment (← baseConfig host options)

def scenarios (options : Options) (config : Config) : ExceptT Error m (List Scenario) := do
  let specs ←
    match options.scenarios with
    | some path => do Spec.ofYaml (← text host path)
    | none => pure Spec.builtin
  Spec.resolveAll specs config.polling options.only

def ensureParent (path : String) : ExceptT Files.Fault m Unit := do
  match Path.parent? path with
  | some directory =>
    if !directory.isEmpty && !(← host.contains directory) then host.makeDirectories directory
  | none => return

def openLog (path : String) : ExceptT Files.Fault m Unit := do
  ensureParent host path
  host.openToAppend path

def startLog (options : Options) (config : Config) : m Unit := do
  match options.logPath? host.environment config with
  | some path =>
    match ← openLog host path with
    | .ok () => return
    | .error fault =>
      host.printError ("Warning: Could not open log file '" ++ path ++ "': " ++ fault.message)
  | none => return

def connect (config : DatabaseConfig) : ExceptT Error m (Runner m) := do
  TableName.check config.table
  match Sql.acquire config (← host.dial config) with
  | .ok runner => return runner
  | .error fault => throw fault.toError

def run (options : Options) (config : Config) : ExceptT Error m (List ScenarioResult) := do
  let scenarios ← scenarios host options config
  let runner ← connect host config.database
  runner { concurrent := config.run.concurrent, grace := .ofSeconds config.run.graceSecs }
    { json := options.json, colours := host.colours } scenarios

def conclude (ended : Except Error (List ScenarioResult)) : m Nat := do
  match ended with
  | .ok _ => pure ()
  | .error fault => host.printError (Report.fatalLine host.colours fault)
  return Run.status ended

def carryOut (options : Options) : m Nat := do
  match ← config host options with
  | .error fault => conclude host (.error fault)
  | .ok config =>
    startLog host options config
    conclude host (← run host options config)

def start (arguments : List String) : m Nat := do
  match Options.ofArguments arguments with
  | .ok options => carryOut host options
  | .error .help =>
    helpLines.forM host.print
    return 0
  | .error .version =>
    host.print versionLine
    return 0
  | .error stop =>
    stop.refusal.forM host.printError
    return Report.fatalStatus

end DeliveryCheck.Command.Session
