import DeliveryCheck.Text.Hexadecimal
import DeliveryCheck.Yaml.Cursor

namespace DeliveryCheck.Yaml

/-- A tag as it is written; one that is written out has no handle. -/
structure TagName where
  handle : String
  suffix : String
deriving DecidableEq

inductive Directive where
  | version (major minor : Nat)
  | tag (handle leading : String)
deriving DecidableEq

namespace TagName

def octet : Scan Nat := do
  Scan.char '%'
  return Hexadecimal.ofDigits 16 (← Scan.field Hexadecimal.isDigit 2)

def nextOctet (code : Nat) : Scan Nat := do
  let found ← octet
  guard (found / 64 = 2)
  return code * 64 + found % 64

/-- A character whose octets in UTF-8 are written as hexadecimal numbers. -/
def escaped : Scan (List Char) := do
  let lead ← octet
  let code ←
    if lead < 0x80 then pure lead
    else if lead / 32 = 6 then nextOctet (lead % 32)
    else if lead / 16 = 14 then nextOctet (lead % 16) >>= nextOctet
    else if lead / 8 = 30 then nextOctet (lead % 8) >>= nextOctet >>= nextOctet
    else Scan.refuse
  guard code.isValidChar
  return [Char.ofNat code]

def chars (verbatim : Bool) : Scan (List Char) := do
  let piece := Scan.run1 (isTagChar verbatim)
  return (← Scan.many (escaped <|> piece)).flatten

def chars1 (verbatim : Bool) : Scan (List Char) := do
  let found ← chars verbatim
  guard (!found.isEmpty)
  return found

def handleText : Scan (List Char) := do
  Scan.char '!'
  let name ← Scan.run isWord
  let closed ← optional? (Scan.char '!')
  return '!' :: (name ++ if closed.isSome then ['!'] else [])

def isClosed (handle : List Char) : Bool := 2 ≤ handle.length && handle.getLast? == some '!'

def verbatim : Scan TagName := do
  Scan.char '!'
  Scan.char '<'
  let found ← chars1 true
  Scan.char '>'
  return ⟨"", String.ofList found⟩

/-- A handle that is not closed is part of the suffix; a mark alone is a tag of its own. -/
def shorthand : Scan TagName := do
  let handle ← handleText
  if isClosed handle then
    return ⟨String.ofList handle, String.ofList (← chars1 false)⟩
  let suffix := handle.tail ++ (← chars false)
  return if suffix.isEmpty then ⟨"", "!"⟩ else ⟨"!", String.ofList suffix⟩

/-- A tag, which has to end at a gap or in a flow collection at a comma. -/
def read (inFlow : Bool) : Scan TagName := do
  let found ← verbatim <|> shorthand
  let here ← get
  guard (here.isGapAt 0 ∨ (inFlow ∧ here.peek? = some ','))
  return found

end TagName

namespace Directive

def number : Scan Nat := do
  let digits ← Scan.run1 Char.isDigit
  guard (digits.length ≤ 9)
  return Decimal.ofDigits digits

def readVersion : Scan Directive := do
  let major ← number
  Scan.char '.'
  return .version major (← number)

def readTag : Scan Directive := do
  let handle ← TagName.handleText
  guard (handle = ['!'] ∨ TagName.isClosed handle)
  let _ ← Scan.run1 isBlank
  let leading ← TagName.chars1 true
  guard ((← get).isGapAt 0)
  return .tag (String.ofList handle) (String.ofList leading)

def read : Scan Directive := do
  Scan.char '%'
  let name ← Scan.run1 isWord
  guard ((← get).isGapAt 0)
  let _ ← Scan.run isBlank
  let found ←
    if name = "YAML".toList then readVersion
    else if name = "TAG".toList then readTag
    else Scan.refuse
  Scan.restOfLine
  return found

end Directive

end DeliveryCheck.Yaml
