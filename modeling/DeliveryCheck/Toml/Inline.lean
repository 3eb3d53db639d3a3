import DeliveryCheck.Time.Rfc3339
import DeliveryCheck.Toml.Number
import DeliveryCheck.Toml.Table
import DeliveryCheck.Toml.Value

namespace DeliveryCheck.Toml

def timeOfDay : Reader Unit := do
  let _ ← Timestamp.readTime
  let _ ← Reader.option Timestamp.readFraction

def timeOfDate : Reader Unit := do
  let _ ← Reader.one ['T', 't', ' '].contains
  timeOfDay
  let _ ← Reader.option Timestamp.readOffset

def day : Reader Unit := do
  let _ ← Date.read
  let _ ← Reader.option timeOfDate

def moment : Reader Value := do
  day <|> timeOfDay
  return .moment

def bool : Reader Value :=
  (do Reader.word ['t', 'r', 'u', 'e']; return .bool true) <|>
    (do Reader.word ['f', 'a', 'l', 's', 'e']; return .bool false)

def scalar : Reader Value :=
  (do return .string (← text)) <|> moment <|> finiteFloat <|> specialFloat <|> integer <|> bool

def arrayOf (value : Reader Value) : Reader Value := do
  Reader.char '['
  let items ← Reader.option (Reader.separated (gap *> value <* gap) (Reader.char ','))
  if items.isSome then
    let _ ← Reader.option (Reader.char ',')
  gap
  Reader.char ']'
  return .array (items.getD [])

def pairOf (value : Reader Value) : Reader (List String × Value) := do
  let path ← key
  Reader.char '='
  spaces
  let found ← value
  spaces
  return (path, found)

def entriesOf : List (List String × Value) → Entries → Option Entries
  | [], entries => some entries
  | ([], _) :: _, _ => none
  | (key :: path, value) :: rest, entries => do
    entriesOf rest (← entries.assign value key path)

def inlineTableOf (value : Reader Value) : Reader Value := do
  Reader.char '\x7b'
  let pairs ← Reader.option (Reader.separated (pairOf value) (Reader.char ','))
  spaces
  Reader.char '\x7d'
  return .table .inline (← entriesOf (pairs.getD []) [])

def valueWithin : (depth : Nat) → Reader Value
  | 0 => scalar
  | depth + 1 => scalar <|> arrayOf (valueWithin depth) <|> inlineTableOf (valueWithin depth)

def depthLimit : Nat := 79

def value : Reader Value := valueWithin depthLimit

end DeliveryCheck.Toml
