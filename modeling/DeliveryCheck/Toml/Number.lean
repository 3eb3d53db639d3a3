import DeliveryCheck.Toml.Value
import DeliveryCheck.Toml.Text

namespace DeliveryCheck.Toml

/-- Digits of a class with underscores between them, which are dropped. -/
def digitRun (isDigit : Char → Bool) : Reader (List Char) := do
  let first ← Reader.one isDigit
  let others ← Reader.many (Reader.option (Reader.char '_') *> Reader.one isDigit)
  return first :: others

def decimalDigits : Reader (List Char) := do
  let digits ← digitRun Char.isDigit
  guard (digits.length = 1 ∨ digits.head? ≠ some '0')
  return digits

def sign : Reader Bool := do
  return (← Reader.option (Reader.one fun c => c == '+' || c == '-')) == some '-'

def fitsInteger (value : Int) : Bool := -9223372036854775808 ≤ value && value ≤ 9223372036854775807

def based (base : Nat) (mark : Char) (isDigit : Char → Bool) : Reader Int := do
  Reader.word ['0', mark]
  let digits ← digitRun isDigit
  return Hexadecimal.ofDigits base digits

def decimal : Reader Int := do
  let negative ← sign
  let size : Int := Decimal.ofDigits (← decimalDigits)
  return if negative then -size else size

def integer : Reader Value := do
  let value ← based 16 'x' Hexadecimal.isDigit <|> based 8 'o' (fun c => '0' ≤ c && c ≤ '7') <|>
    based 2 'b' (fun c => c == '0' || c == '1') <|> decimal
  guard (fitsInteger value)
  return .integer value

/-- From here on a number is nearer to a power of two than to the largest finite one. -/
def floatLimit : Nat := Nat.pow 2 1024 - Nat.pow 2 970

def isTooLarge (digits : List Char) (exponent : Int) : Bool :=
  let size := Decimal.ofDigits digits
  let magnitude := (Decimal.digits size).length + exponent
  if size = 0 ∨ magnitude < 300 then false
  else if 400 < magnitude then true
  else if 0 ≤ exponent then floatLimit ≤ size * Nat.pow 10 exponent.toNat
  else floatLimit * Nat.pow 10 (-exponent).toNat ≤ size

def exponentPart : Reader Int := do
  let _ ← Reader.one fun c => c == 'e' || c == 'E'
  let negative ← sign
  let size : Int := Decimal.ofDigits (← digitRun Char.isDigit)
  return if negative then -size else size

def fractionPart : Reader (List Char) := do
  Reader.char '.'
  digitRun Char.isDigit

def finiteFloat : Reader Value := do
  let negative ← sign
  let whole ← decimalDigits
  let fraction ← Reader.option fractionPart
  let exponent ← Reader.option exponentPart
  guard (fraction.isSome ∨ exponent.isSome)
  let digits := whole ++ fraction.getD []
  guard (negative ∨ !isTooLarge digits (exponent.getD 0 - (fraction.getD []).length))
  return .float

def specialFloat : Reader Value := do
  let _ ← sign
  Reader.word ['i', 'n', 'f'] <|> Reader.word ['n', 'a', 'n']
  return .float

end DeliveryCheck.Toml
