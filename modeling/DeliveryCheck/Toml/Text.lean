import DeliveryCheck.Text.Hexadecimal
import DeliveryCheck.Text.Reader

namespace DeliveryCheck.Toml

def isText (c : Char) : Bool := c == '\t' || (' ' ≤ c && c != '\x7f')

def isSpace (c : Char) : Bool := c == ' ' || c == '\t'

def spaces : Reader Unit := do
  let _ ← Reader.run isSpace

def newline : Reader Unit := Reader.char '\n' <|> Reader.word ['\r', '\n']

def comment : Reader Unit := do
  Reader.char '#'
  let _ ← Reader.run isText

def gap : Reader Unit := do
  let _ ← Reader.many (newline <|> comment <|> (do let _ ← Reader.run1 isSpace))

def codePoint (count : Nat) : Reader Char := do
  (Hexadecimal.charOf? (← Reader.field Hexadecimal.isDigit count) : Option Char)

def escaped : Reader Char := do
  match ← Reader.one (fun _ => true) with
  | 'b' => return '\x08'
  | 't' => return '\t'
  | 'n' => return '\n'
  | 'f' => return '\x0c'
  | 'r' => return '\r'
  | '"' => return '"'
  | '\\' => return '\\'
  | 'u' => codePoint 4
  | 'U' => codePoint 8
  | _ => Reader.refuse

def escape : Reader (List Char) := do
  Reader.char '\\'
  return [← escaped]

/-- A backslash at the end of a line, and the blank space up to the next text. -/
def continuation : Reader (List Char) := do
  Reader.char '\\'
  spaces
  newline
  let _ ← Reader.many (newline <|> (do let _ ← Reader.run1 isSpace))
  return []

def lineFeed : Reader (List Char) := do
  newline
  return ['\n']

def singleLine (mark : Char) (item : Reader (List Char)) : Reader String := do
  Reader.char mark
  let pieces ← Reader.many item
  Reader.char mark
  return String.ofList pieces.flatten

/-- One or two quotes, which do not end a string on several lines. -/
def fewQuotes (mark : Char) : Reader (List Char) := do
  let quotes ← Reader.run1 (· == mark)
  guard (quotes.length ≤ 2)
  return quotes

/-- Three quotes that end a string, after at most two that belong to it. -/
def closing (mark : Char) : Reader (List Char) := do
  let quotes ← Reader.run1 (· == mark)
  guard (3 ≤ quotes.length ∧ quotes.length ≤ 5)
  return quotes.drop 3

/-- The text of a string on several lines; a line end right after the opening does not belong to it. -/
def multiLine (mark : Char) (item : Reader (List Char)) : Reader String := do
  Reader.word [mark, mark, mark]
  let _ ← Reader.option newline
  let pieces ← Reader.many (item <|> lineFeed <|> fewQuotes mark)
  let last ← closing mark
  return String.ofList (pieces.flatten ++ last)

def basicItem : Reader (List Char) :=
  Reader.run1 (fun c => isText c && c != '"' && c != '\\') <|> escape

def literalItem : Reader (List Char) := Reader.run1 fun c => isText c && c != '\''

def basic : Reader String := singleLine '"' basicItem

def literal : Reader String := singleLine '\'' literalItem

def text : Reader String :=
  multiLine '"' (continuation <|> basicItem) <|> multiLine '\'' literalItem <|> basic <|> literal

def bareKey : Reader String := do
  return String.ofList (← Reader.run1 fun c => c.isAlphanum || c == '_' || c == '-')

/-- Keys may have dots in them, fewer than this many parts. -/
def keyLimit : Nat := 80

def key : Reader (List String) := do
  let part : Reader String := spaces *> (bareKey <|> basic <|> literal) <* spaces
  let parts ← Reader.separated part (Reader.char '.')
  guard (parts.length < keyLimit)
  return parts

end DeliveryCheck.Toml
