namespace DeliveryCheck.Decimal

def digitChar (d : Nat) : Char := Char.ofNat ('0'.toNat + d)

def digits (n : Nat) : List Char :=
  if n < 10 then [digitChar n] else digits (n / 10) ++ [digitChar (n % 10)]

def natural (n : Nat) : String := String.ofList (digits n)

def integer : Int → String
  | .ofNat n => natural n
  | .negSucc n => "-" ++ natural (n + 1)

/-- The last `width` digits of a number, with leading zeros. -/
def lastDigits : (width n : Nat) → List Char
  | 0, _ => []
  | width + 1, n => lastDigits width (n / 10) ++ [digitChar (n % 10)]

/-- At least `width` digits, filled with zeros on the left. -/
def padded (width n : Nat) : String :=
  let shown := digits n
  String.ofList (List.replicate (width - shown.length) '0' ++ shown)

def digitValue (c : Char) : Nat := c.toNat - '0'.toNat

def ofDigits (cs : List Char) : Nat := cs.foldl (fun n c => 10 * n + digitValue c) 0

end DeliveryCheck.Decimal
