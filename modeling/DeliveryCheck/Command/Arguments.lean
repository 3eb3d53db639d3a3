import DeliveryCheck.Command.Options

namespace DeliveryCheck.Command

inductive Argument where
  | plain (text : String)
  /-- Two dashes, after which no option follows. -/
  | ending
  | long (name : String) (value : Option String)
  | short (letters : List Char)
deriving DecidableEq

/-- A single dash is plain text. -/
def Argument.ofText (text : String) : Argument :=
  match text.toList with
  | ['-', '-'] => .ending
  | '-' :: '-' :: rest =>
    let value :=
      match rest.dropWhile (· != '=') with
      | _ :: value => some (String.ofList value)
      | [] => none
    .long (String.ofList (rest.takeWhile (· != '='))) value
  | '-' :: letter :: letters => .short (letter :: letters)
  | _ => .plain text

structure Reading where
  options : Options := {}
  waiting : Option (Parameter × Option String) := none

namespace Reading

def settle (reading : Reading) : Except Stop Options :=
  match reading.waiting with
  | some (parameter, value) => reading.options.give parameter value
  | none => .ok reading.options

def act (reading : Reading) (flag : Flag) : Except Stop Reading := do
  let options ← reading.settle
  match flag with
  | .parameter parameter => return ⟨options, some (parameter, none)⟩
  | .switch switch => return ⟨← options.turnOn switch, none⟩
  | .help => .error .help
  | .version => .error .version

def actWith (reading : Reading) (flag : Flag) (value : String) : Except Stop Reading :=
  match flag with
  | .parameter parameter => do
    let options ← reading.settle
    return ⟨← options.give parameter (some value), none⟩
  | flag => .error (.unwantedValue flag)

def plain (reading : Reading) (text : String) : Except Stop Reading :=
  match reading.waiting with
  | some (parameter, none) => .ok { reading with waiting := some (parameter, some text) }
  | _ => .error (.unknown text)

def long (reading : Reading) (name : String) (value : Option String) : Except Stop Reading :=
  match Flag.ofName? name, value with
  | none, _ => .error (.unknown ("--" ++ name))
  | some flag, none => reading.act flag
  | some flag, some value => reading.actWith flag value

def short (reading : Reading) (letter : Char) : Except Stop Reading :=
  match Flag.ofLetter? letter with
  | none => .error (.unknown (String.ofList ['-', letter]))
  | some flag => reading.act flag

def finish (reading : Reading) : List String → Except Stop Options
  | [] => reading.settle
  | text :: rest =>
    match Argument.ofText text with
    | .ending =>
      match rest with
      | [] => reading.settle
      | next :: _ => .error (.unknown next)
    | .plain text => do (← reading.plain text).finish rest
    | .long name value => do (← reading.long name value).finish rest
    | .short letters => do (← letters.foldlM short reading).finish rest

end Reading

def Options.ofArguments (arguments : List String) : Except Stop Options :=
  Reading.finish {} arguments

end DeliveryCheck.Command
