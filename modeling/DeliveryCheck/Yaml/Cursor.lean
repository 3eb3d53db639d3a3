import DeliveryCheck.Text.Reader

namespace DeliveryCheck.Yaml

def isAllowed (c : Char) : Bool :=
  c == '\t' || c == '\n' || c == '\r' || (' ' ≤ c && c ≤ '~') || c == '\u0085' ||
    ('\u00a0' ≤ c && c ≤ '\ufffd') || 0x10000 ≤ c.toNat

def isBreak (c : Char) : Bool := ['\r', '\n', '\u0085', '\u2028', '\u2029'].contains c

def isBlank (c : Char) : Bool := c == ' ' || c == '\t'

def isGap (c : Char) : Bool := isBlank c || isBreak c

def isWord (c : Char) : Bool := c.isAlphanum || c == '_' || c == '-'

/-- Characters of a tag, in angle brackets if it is `verbatim`. -/
def isTagChar (verbatim : Bool) (c : Char) : Bool :=
  isWord c || ";/?:@&=+$.!~*'()".toList.contains c || (verbatim && ",[]".toList.contains c)

def isFlowIndicator (c : Char) : Bool := ",[]\x7b\x7d".toList.contains c

/-- Characters that no plain scalar starts with, unless what follows allows it. -/
def isIndicator (c : Char) : Bool := "-?:,[]\x7b\x7d#&*!|>'\"%@\x60".toList.contains c

structure Cursor where
  rest : List Char
  index : Nat := 0
  line : Nat := 0
  column : Nat := 0

abbrev Scan := StateT Cursor Option

namespace Cursor

def size (at' : Cursor) : Nat := at'.rest.length

def peek? (at' : Cursor) (offset : Nat := 0) : Option Char := at'.rest[offset]?

/-- The end of the text counts as a line break. -/
def isGapAt (at' : Cursor) (offset : Nat) : Bool := (at'.peek? offset).all isGap

def isAtEnd (at' : Cursor) : Bool := at'.rest.isEmpty

def isAtBreakOrEnd (at' : Cursor) : Bool := at'.peek?.all isBreak

/-- Whether a line starts here with three hyphens or three dots that stand alone. -/
def isAtMarker (at' : Cursor) (c : Char) : Bool :=
  at'.column = 0 && at'.rest.take 3 == [c, c, c] && at'.isGapAt 3

def isAtDocumentMarker (at' : Cursor) : Bool := at'.isAtMarker '-' || at'.isAtMarker '.'

def advance (at' : Cursor) (count : Nat) : Cursor :=
  { at' with
    rest := at'.rest.drop count, index := at'.index + count, column := at'.column + count }

def nextLine (at' : Cursor) (count : Nat) : Cursor :=
  { rest := at'.rest.drop count, index := at'.index + count, line := at'.line + 1, column := 0 }

end Cursor

namespace Scan

def refuse {α : Type} : Scan α := fun _ => none

def skip (count : Nat) : Scan Unit := modify (·.advance count)

def one (allowed : Char → Bool) : Scan Char := do
  match (← get).peek? with
  | none => refuse
  | some c =>
    guard (allowed c)
    skip 1
    return c

def char (c : Char) : Scan Unit := do
  let _ ← one (· == c)

def run (allowed : Char → Bool) : Scan (List Char) := do
  let found := (← get).rest.takeWhile allowed
  skip found.length
  return found

def run1 (allowed : Char → Bool) : Scan (List Char) := do
  let found ← run allowed
  guard (!found.isEmpty)
  return found

def field (allowed : Char → Bool) (count : Nat) : Scan (List Char) := do
  let found := (← get).rest.take count
  guard (found.length = count ∧ found.all allowed)
  skip count
  return found

def lineBreak : Scan (List Char) := do
  let here ← get
  match here.rest with
  | '\r' :: '\n' :: _ =>
    set (here.nextLine 2)
    return ['\n']
  | c :: _ =>
    guard (isBreak c)
    set (here.nextLine 1)
    return if c == '\u2028' || c == '\u2029' then [c] else ['\n']
  | [] => refuse

def many {α : Type} (item : Scan α) : Scan (List α) := collectAll Cursor.size item

def comment : Scan Unit := do
  if (← get).peek? == some '#' then
    let _ ← run (!isBreak ·)

def restOfLine : Scan Unit := do
  let _ ← run isBlank
  comment
  guard (← get).isAtBreakOrEnd
  let _ ← optional? lineBreak

end Scan

end DeliveryCheck.Yaml
