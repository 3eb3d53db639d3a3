import DeliveryCheck.Command.Session

namespace DeliveryCheck

open Command

def faultOf : IO.Error → Files.Fault
  | .noFileOrDirectory _ _ _ => .notFound
  | .alreadyExists _ _ _ => .alreadyExists
  | .inappropriateType _ 21 _ => .isDirectory
  | .inappropriateType _ _ _ => .notDirectory
  | .invalidArgument _ 36 _ => .nameTooLong
  | fault => .other (toString fault)

def attempt {α : Type} (action : IO α) : IO (Except Files.Fault α) := do
  try return .ok (← action)
  catch fault => return .error (faultOf fault)

def readText (path : String) : IO (Except Files.Fault String) := do
  match ← attempt (IO.FS.readBinFile path) with
  | .error fault => return .error fault
  | .ok content =>
    match String.fromUTF8? content with
    | some text => return .ok text
    | none => return .error .notText

def appendTo (path : String) : IO Unit := do
  let _ ← IO.FS.Handle.mk path .append

def isThere (path : String) : IO Bool := do
  return (← attempt (IO.FS.Handle.mk path .read)).toOption.isSome

def environmentNow : IO Environment := do
  let settings ← Environment.names.filterMapM fun name => do
    return (← IO.getEnv name).map (name, ·)
  return { settings := settings }

/-- The machine that the program runs on. No database is in its reach. -/
def hostNow : IO (Host IO) := do
  let output ← IO.getStdout
  let environment ← environmentNow
  let terminal ← output.isTty
  return {
    environment := environment
    terminal := terminal
    contains := isThere
    read := readText
    makeDirectories := fun path => attempt (IO.FS.createDirAll path)
    openToAppend := fun path => attempt (appendTo path)
    print := fun line => output.putStrLn line
    printError := fun line => IO.eprintln line
    dial := fun _ => return .error (.unreachable "Network is unreachable (os error 101)") }

end DeliveryCheck

def main (arguments : List String) : IO UInt32 := do
  let status ← DeliveryCheck.Command.Session.start (← DeliveryCheck.hostNow) arguments
  return status.toUInt32
