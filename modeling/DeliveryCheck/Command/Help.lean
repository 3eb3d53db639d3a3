import DeliveryCheck.Command.Environment
import DeliveryCheck.Command.Options

namespace DeliveryCheck.Command

def programVersion : String := "0.1.0"

namespace Flag

def placeholder? : Flag → Option String
  | parameter .config => some "<CONFIG>"
  | parameter .databaseUrl => some "<DATABASE_URL>"
  | parameter .table => some "<TABLE>"
  | parameter .scenarios => some "<SCENARIOS>"
  | parameter .only => some "<NAME>"
  | parameter .logFile => some "[<PATH>]"
  | _ => none

def description : Flag → String
  | parameter .config => "Configuration file (default: platform config dir/config.toml)"
  | parameter .databaseUrl =>
    "Postgres URL of the shared store (overrides config and DATABASE_URL)"
  | parameter .table => "Schema-qualified notification table"
  | parameter .scenarios => "YAML file replacing the built-in scenarios"
  | parameter .only => "Run only the named scenario (repeatable, case-insensitive)"
  | parameter .logFile => "Also write logs to a file (default location if no path is given)"
  | switch .concurrent => "Run scenarios concurrently instead of one after another"
  | switch .json => "Print the summary as JSON instead of the console report"
  | switch .verbose => "Debug-level logging"
  | help => "Print help"
  | version => "Print version"

def written (flag : Flag) : String := "--" ++ flag.name

def usage (flag : Flag) : String :=
  let letter :=
    match flag.letter? with
    | some letter => "  -" ++ String.singleton letter ++ ", "
    | none => "      "
  let value :=
    match flag.placeholder? with
    | some placeholder => " " ++ placeholder
    | none => ""
  letter ++ flag.written ++ value

def usageWidth : Nat := (all.map fun flag => flag.usage.length).foldl max 0

def helpLine (flag : Flag) : String :=
  flag.usage ++ String.ofList (List.replicate (usageWidth + 2 - flag.usage.length) ' ') ++
    flag.description

end Flag

def usageLine : String := "Usage: " ++ applicationName ++ " [OPTIONS]"

def helpLines : List String :=
  ["End-to-end checks for the notification worker", "", usageLine, "", "Options:"] ++
    Flag.all.map Flag.helpLine

def versionLine : String := applicationName ++ " " ++ programVersion

namespace Stop

def reason : Stop → String
  | unknown argument => "unexpected argument '" ++ argument ++ "' found"
  | repeated flag => "the argument '" ++ flag.written ++ "' cannot be used multiple times"
  | unwantedValue flag => "unexpected value for '" ++ flag.written ++ "' found; it takes none"
  | badValue parameter =>
    "a value is required for '" ++ (Flag.parameter parameter).written ++ "' but none was supplied"
  | help => "help was asked for"
  | version => "the version was asked for"

def refusal (stop : Stop) : List String :=
  ["error: " ++ stop.reason, "", usageLine, "", "For more information, try '--help'."]

end Stop

end DeliveryCheck.Command
