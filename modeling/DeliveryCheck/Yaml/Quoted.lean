import DeliveryCheck.Text.Hexadecimal
import DeliveryCheck.Yaml.Fold

namespace DeliveryCheck.Yaml

def codePoint (count : Nat) : Scan Char := do
  (Hexadecimal.charOf? (← Scan.field Hexadecimal.isDigit count) : Option Char)

def escape : Scan (List Char) := do
  Scan.char '\\'
  match ← Scan.one (fun _ => true) with
  | '0' => return ['\x00']
  | 'a' => return ['\x07']
  | 'b' => return ['\x08']
  | 't' | '\t' => return ['\t']
  | 'n' => return ['\n']
  | 'v' => return ['\x0b']
  | 'f' => return ['\x0c']
  | 'r' => return ['\r']
  | 'e' => return ['\x1b']
  | ' ' => return [' ']
  | '"' => return ['"']
  | '/' => return ['/']
  | '\\' => return ['\\']
  | 'N' => return ['\u0085']
  | '_' => return ['\u00a0']
  | 'L' => return ['\u2028']
  | 'P' => return ['\u2029']
  | 'x' => return [← codePoint 2]
  | 'u' => return [← codePoint 4]
  | 'U' => return [← codePoint 8]
  | _ => Scan.refuse

def hiddenBreak : Scan (List Char) := do
  Scan.char '\\'
  let _ ← Scan.lineBreak
  emptyLines 0

def doubledQuote : Scan (List Char) := do
  Scan.char '\''
  Scan.char '\''
  return ['\'']

def quotedGap : Scan (List Char) := do
  guard ((← get).peek?.any isGap)
  return (← gap 0).1

/-- A part of the text, after which no line may start like a document. -/
def quotedPart (part : Scan (List Char)) : Scan (List Char) := do
  let text ← quotedGap <|> part
  guard (!(← get).isAtDocumentMarker)
  return text

def quotedText (mark : Char) (part : Scan (List Char)) : Scan String := do
  Scan.char mark
  let parts ← Scan.many (quotedPart part)
  Scan.char mark
  return String.ofList parts.flatten

def singleQuoted : Scan String :=
  quotedText '\'' (Scan.run1 (fun c => !isGap c && c != '\'') <|> doubledQuote)

def doubleQuoted : Scan String :=
  quotedText '"' (Scan.run1 (fun c => !isGap c && c != '"' && c != '\\') <|> hiddenBreak <|> escape)

end DeliveryCheck.Yaml
