namespace DeliveryCheck.Command

inductive Parameter where
  | config
  | databaseUrl
  | table
  | scenarios
  | only
  | logFile
deriving DecidableEq

inductive Switch where
  | concurrent
  | json
  | verbose
deriving DecidableEq

inductive Flag where
  | parameter (parameter : Parameter)
  | switch (switch : Switch)
  | help
  | version
deriving DecidableEq

namespace Flag

def all : List Flag :=
  [.parameter .config, .parameter .databaseUrl, .parameter .table, .parameter .scenarios,
    .parameter .only, .switch .concurrent, .switch .json, .switch .verbose, .parameter .logFile,
    .help, .version]

def name : Flag → String
  | parameter .config => "config"
  | parameter .databaseUrl => "database-url"
  | parameter .table => "table"
  | parameter .scenarios => "scenarios"
  | parameter .only => "only"
  | parameter .logFile => "log-file"
  | switch .concurrent => "concurrent"
  | switch .json => "json"
  | switch .verbose => "verbose"
  | help => "help"
  | version => "version"

def letter? : Flag → Option Char
  | switch .verbose => some 'v'
  | help => some 'h'
  | version => some 'V'
  | _ => none

def ofName? (name : String) : Option Flag := all.find? fun flag => flag.name == name

def ofLetter? (letter : Char) : Option Flag := all.find? fun flag => flag.letter? == some letter

end Flag

structure Options where
  config : Option String := none
  databaseUrl : Option String := none
  table : Option String := none
  scenarios : Option String := none
  only : List String := []
  concurrent : Bool := false
  json : Bool := false
  verbose : Bool := false
  /-- Whether a log file is wanted, and its path if one was given. -/
  logFile : Option (Option String) := none
deriving DecidableEq

inductive Stop where
  | unknown (argument : String)
  | repeated (flag : Flag)
  | unwantedValue (flag : Flag)
  /-- A value that is missing, or an empty path. -/
  | badValue (parameter : Parameter)
  | help
  | version
deriving DecidableEq

namespace Parameter

def isPath : Parameter → Bool
  | config | scenarios | logFile => true
  | databaseUrl | table | only => false

def mayLackValue (parameter : Parameter) : Bool := parameter == logFile

end Parameter

namespace Options

def has (options : Options) : Parameter → Bool
  | .config => options.config.isSome
  | .databaseUrl => options.databaseUrl.isSome
  | .table => options.table.isSome
  | .scenarios => options.scenarios.isSome
  | .only => false
  | .logFile => options.logFile.isSome

def withParameter (options : Options) (value : Option String) : Parameter → Options
  | .config => { options with config := value }
  | .databaseUrl => { options with databaseUrl := value }
  | .table => { options with table := value }
  | .scenarios => { options with scenarios := value }
  | .only => { options with only := options.only ++ value.toList }
  | .logFile => { options with logFile := some value }

def give (options : Options) (parameter : Parameter) (value : Option String) :
    Except Stop Options :=
  if value.isNone && !parameter.mayLackValue then .error (.badValue parameter)
  else if options.has parameter then .error (.repeated (.parameter parameter))
  else if value == some "" && parameter.isPath then .error (.badValue parameter)
  else .ok (options.withParameter value parameter)

def isOn (options : Options) : Switch → Bool
  | .concurrent => options.concurrent
  | .json => options.json
  | .verbose => options.verbose

def withSwitch (options : Options) : Switch → Options
  | .concurrent => { options with concurrent := true }
  | .json => { options with json := true }
  | .verbose => { options with verbose := true }

def turnOn (options : Options) (switch : Switch) : Except Stop Options :=
  if options.isOn switch then .error (.repeated (.switch switch))
  else .ok (options.withSwitch switch)

end Options

end DeliveryCheck.Command
