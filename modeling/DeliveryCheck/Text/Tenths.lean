import DeliveryCheck.Time.Duration
import DeliveryCheck.Text.Decimal
/-!
Seconds shown with one decimal. The length passes through binary floating point of 53 bits: whole
seconds and fraction are rounded on their own, then their sum is, and the exact value of that sum is
rounded to tenths. A half goes to the even neighbour every time.
-/

namespace DeliveryCheck

/-- The nearest integer to a quotient, a half going to the even one. -/
def roundHalfEven (num den : Nat) : Nat :=
  let quotient := num / den
  let rest := 2 * (num % den)
  if rest < den then quotient
  else if den < rest then quotient + 1
  else quotient + quotient % 2

structure Dyadic where
  num : Nat
  den : Nat

namespace Dyadic

def zero : Dyadic := ⟨0, 1⟩

/-- Rounds a quotient to a multiple of two to the `exponent`. -/
def roundTo (num den : Nat) (exponent : Int) : Dyadic :=
  if 0 ≤ exponent then
    ⟨roundHalfEven num (den * Nat.pow 2 exponent.toNat) * Nat.pow 2 exponent.toNat, 1⟩
  else
    ⟨roundHalfEven (num * Nat.pow 2 (-exponent).toNat) den, Nat.pow 2 (-exponent).toNat⟩

/-- The exponent at which the quotient has 53 significant bits. -/
def exponentFor (num den : Nat) : Int :=
  let guess : Int := num.log2 - den.log2 - 52
  let tooSmall :=
    if 0 ≤ guess then num < den * Nat.pow 2 guess.toNat * Nat.pow 2 52
    else num * Nat.pow 2 (-guess).toNat < den * Nat.pow 2 52
  if tooSmall then guess - 1 else guess

def round (num den : Nat) : Dyadic :=
  if num = 0 then zero else roundTo num den (exponentFor num den)

def add (x y : Dyadic) : Dyadic := round (x.num * y.den + y.num * x.den) (x.den * y.den)

end Dyadic

namespace Duration

def floatSeconds (d : Duration) : Dyadic :=
  (Dyadic.round d.wholeSeconds 1).add (Dyadic.round d.subsecondNanos second)

def tenths (d : Duration) : Nat :=
  roundHalfEven (d.floatSeconds.num * 10) d.floatSeconds.den

def tenthsText (d : Duration) : String :=
  Decimal.natural (d.tenths / 10) ++ "." ++ Decimal.natural (d.tenths % 10)

/-- Seconds with as many of nine decimals as are needed, and the unit. -/
def exactText (d : Duration) : String :=
  let fraction := (Decimal.lastDigits 9 d.subsecondNanos).reverse.dropWhile (· = '0') |>.reverse
  let shown := if fraction.isEmpty then "" else "." ++ String.ofList fraction
  Decimal.natural d.wholeSeconds ++ shown ++ "s"

end Duration

end DeliveryCheck
