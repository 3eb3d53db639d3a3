import DeliveryCheck.Text.Tenths
import DeliveryCheck.Text.Quoted

namespace DeliveryCheck

def longestWaitSeconds : Nat := 86400

structure LongWait where
  field : String
  length : Duration
deriving DecidableEq

def LongWait.message (wait : LongWait) : String :=
  wait.field ++ " must be at most " ++ Decimal.natural longestWaitSeconds ++ " seconds, got " ++
    wait.length.exactText

inductive ConfigFault where
  | zeroInterval
  | zeroTimeout
  | longWait (wait : LongWait)
  | noConnections
  | noMatch (wanted available : List String)
  | timeoutOutOfRange (timeout : Duration)
  | other (reason : String)
deriving DecidableEq

def ConfigFault.message : ConfigFault → String
  | .zeroInterval => "polling.interval_ms must be greater than 0"
  | .zeroTimeout => "poll timeouts must be greater than 0"
  | .longWait wait => wait.message
  | .noConnections => "database.max_connections must be greater than 0"
  | .noMatch wanted available =>
    "No scenario matches " ++ quotedList wanted ++ ". Available: " ++ quotedList available
  | .timeoutOutOfRange timeout => "poll timeout of " ++ timeout.exactText ++ " is out of range"
  | .other reason => reason

inductive SpecFault where
  | zeroTiming
  | delayNotScheduled
  | longWait (wait : LongWait)
  | delayOutOfRange (delay : Duration)
deriving DecidableEq

def SpecFault.message : SpecFault → String
  | .zeroTiming => "timeout and interval must be greater than 0"
  | .delayNotScheduled => "delay_secs and buffer_secs only apply to scheduled scenarios"
  | .longWait wait => wait.message
  | .delayOutOfRange delay => "delay of " ++ delay.exactText ++ " is out of range"

inductive ScenarioFault where
  | malformed
  | noneDefined
  | blankName
  | spec (name : String) (fault : SpecFault)
  | other (reason : String)
deriving DecidableEq

def ScenarioFault.message : ScenarioFault → String
  | .malformed => "not a list of scenarios"
  | .noneDefined => "no scenarios defined"
  | .blankName => "scenario name must not be empty"
  | .spec name fault => "scenario '" ++ name ++ "': " ++ fault.message
  | .other reason => reason

inductive Error where
  | storeUnavailable (reason : String)
  | invalidTable (name : String)
  | runTimeout (budget : Duration)
  | config (fault : ConfigFault)
  | configMalformed (reason : String)
  | scenario (fault : ScenarioFault)
  | unreadable (path reason : String)
  | json (reason : String)
  | internal (reason : String)
  /-- An instant that the scripted worker needs cannot be written. -/
  | instantOverflow
deriving DecidableEq

namespace Error

def message : Error → String
  | .storeUnavailable reason =>
    "Store unavailable: " ++ reason ++ ". Check the database URL and that Postgres is reachable"
  | .invalidTable name =>
    "Invalid table name '" ++ name ++ "'. Expected an identifier like 'activity.notifications'"
  | .runTimeout budget =>
    "Run timed out after " ++ budget.tenthsText ++
      " seconds. The worker may be stuck; rerun from scratch"
  | .config fault => "Configuration error: " ++ fault.message
  | .configMalformed reason => "Invalid configuration file: " ++ reason
  | .scenario fault => "Invalid scenario file: " ++ fault.message
  | .unreadable path reason => "Failed to read file '" ++ path ++ "': " ++ reason
  | .json reason => "JSON error: " ++ reason
  | .internal reason => "Internal error: " ++ reason
  | .instantOverflow => "Internal error: due time out of range"

def isStoreFailure : Error → Bool
  | .storeUnavailable _ => true
  | _ => false

end Error

end DeliveryCheck
