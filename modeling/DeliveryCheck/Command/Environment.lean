import DeliveryCheck.Files.Path
import DeliveryCheck.Text.CharacterRange

namespace DeliveryCheck.Command

def applicationName : String := "notify-e2e"

structure Environment where
  settings : List (String × String) := []
  /-- The home directory that the account has if no variable names one. -/
  accountHome : Option String := none

namespace Environment

def names : List String :=
  ["HOME", "XDG_CONFIG_HOME", "XDG_DATA_HOME", "DATABASE_URL", "NO_COLOR", "CLICOLOR",
    "CLICOLOR_FORCE"]

variable (environment : Environment)

def get? (name : String) : Option String := environment.settings.lookup name

def home? : Option String :=
  match environment.get? "HOME" with
  | some home => if home.isEmpty then environment.accountHome else some home
  | none => environment.accountHome

/-- The directory that a variable names by an absolute path, or else one below the home directory. -/
def base? (name usual : String) : Option String :=
  match (environment.get? name).filter Path.isAbsolute with
  | some directory => some directory
  | none => environment.home?.map (Path.join · usual)

def configDirectory? : Option String :=
  (environment.base? "XDG_CONFIG_HOME" ".config").map (Path.join · applicationName)

def configPath? : Option String := environment.configDirectory?.map (Path.join · "config.toml")

def logDirectory? : Option String :=
  (environment.base? "XDG_DATA_HOME" ".local/share").map fun directory =>
    Path.join (Path.join directory applicationName) "logs"

def logPath? : Option String := environment.logDirectory?.map (Path.join · "run.log")

def databaseUrl? : Option String :=
  (environment.get? "DATABASE_URL").filter fun url => !isBlankText url

/-- Whether a variable is set to anything but `0`. -/
def isWanted? (name : String) : Option Bool := (environment.get? name).map (· != "0")

def colours (terminal : Bool) : Bool :=
  if environment.isWanted? "CLICOLOR_FORCE" == some true then true
  else if (environment.get? "NO_COLOR").isSome then false
  else (environment.isWanted? "CLICOLOR").getD true && terminal

end Environment

end DeliveryCheck.Command
