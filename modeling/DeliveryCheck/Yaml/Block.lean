import DeliveryCheck.Text.Decimal
import DeliveryCheck.Yaml.Fold
/-!
Block scalars: all lines below the header that are indented far enough, as they stand or folded. The
header may fix the indentation and say what becomes of the line breaks at the end.
-/

namespace DeliveryCheck.Yaml

inductive Chomping where
  | strip
  | clip
  | keep
deriving DecidableEq

structure BlockHeader where
  chomping : Chomping := .clip
  /-- Columns by which the text is indented more than what is around it, if that is fixed. -/
  indentation : Option Nat := none

namespace BlockHeader

def chompingMark : Scan Chomping := do
  return if (← Scan.one fun c => c == '+' || c == '-') == '+' then .keep else .strip

def indentationMark : Scan Nat := do
  let digit := Decimal.digitValue (← Scan.one Char.isDigit)
  guard (digit ≠ 0)
  return digit

def read : Scan BlockHeader := do
  let before ← optional? chompingMark
  let indentation ← optional? indentationMark
  let after ← if before.isSome then pure none else optional? chompingMark
  Scan.restOfLine
  return ⟨(before.or after).getD .clip, indentation⟩

end BlockHeader

/-- The spaces at the start of a line, as many as belong to the indentation: the column they reach. -/
def indentSpaces (column : Option Nat) : Scan Nat := do
  let here ← get
  let spaces := (here.rest.takeWhile (· == ' ')).length
  Scan.skip (match column with
    | none => spaces
    | some column => min spaces (column - here.column))
  let here ← get
  guard (!(column.all (here.column < ·) && here.peek? == some '\t'))
  return here.column

/-- Empty lines: their breaks, and the furthest column that their spaces and those of the next line
reach. -/
def blankLines (column : Option Nat) : Scan (List Char × Nat) := do
  let lines ← Scan.many do
    let reached ← indentSpaces column
    return (← Scan.lineBreak, reached)
  let last ← indentSpaces column
  return ((lines.map (·.1)).flatten, (lines.map (·.2)).foldl max last)

structure BlockLine where
  text : List Char
  ending : List Char
  after : List Char

namespace BlockLine

def startsBlank (line : BlockLine) : Bool := line.text.head?.any isBlank

def isAt (column : Nat) (here : Cursor) : Bool := here.column = column && !here.isAtEnd

def read (column : Nat) : Scan BlockLine := do
  guard (isAt column (← get))
  let text ← Scan.run (!isBreak ·)
  let ending := (← optional? Scan.lineBreak).getD []
  let (after, _) ← blankLines (some column)
  return ⟨text, ending, after⟩

/-- The breaks between two lines: folded if neither of them starts with a blank. -/
def between (literal : Bool) (line next : BlockLine) : List Char :=
  if !literal && line.ending == ['\n'] && !line.startsBlank && !next.startsBlank then
    folded line.ending line.after
  else line.ending ++ line.after

def join (literal : Bool) (chomping : Chomping) : List BlockLine → List Char
  | [] => []
  | [last] =>
    last.text ++ (match chomping with
      | .strip => []
      | .clip => last.ending
      | .keep => last.ending ++ last.after)
  | line :: next :: rest =>
    line.text ++ between literal line next ++ join literal chomping (next :: rest)

end BlockLine

def blockText (literal : Bool) (indent : Int) : Scan String := do
  let header ← BlockHeader.read
  let fixed := header.indentation.map fun more => (max indent 0).toNat + more
  let (before, reached) ← blankLines fixed
  let column := fixed.getD (max reached (max (indent + 1).toNat 1))
  let lines ← Scan.many (BlockLine.read column)
  guard (!BlockLine.isAt column (← get))
  let tail := if lines.isEmpty && header.chomping != .keep then [] else before
  return String.ofList (tail ++ BlockLine.join literal header.chomping lines)

end DeliveryCheck.Yaml
