import DeliveryCheck.Text.Decimal

namespace DeliveryCheck.Hexadecimal

def digitChar (d : Nat) : Char :=
  if d < 10 then Decimal.digitChar d else Char.ofNat ('a'.toNat + (d - 10))

def digits (n : Nat) : List Char :=
  if n < 16 then [digitChar n] else digits (n / 16) ++ [digitChar (n % 16)]

def isDigit (c : Char) : Bool := c.isDigit || ('a' ≤ c && c ≤ 'f') || ('A' ≤ c && c ≤ 'F')

def digitValue (c : Char) : Nat :=
  if c.isDigit then Decimal.digitValue c
  else if 'a' ≤ c then c.toNat - 'a'.toNat + 10
  else c.toNat - 'A'.toNat + 10

def ofDigits (base : Nat) (cs : List Char) : Nat :=
  cs.foldl (fun n c => base * n + digitValue c) 0

def charOf? (cs : List Char) : Option Char :=
  let code := ofDigits 16 cs
  if code.isValidChar then some (Char.ofNat code) else none

end DeliveryCheck.Hexadecimal
