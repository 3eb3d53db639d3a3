import DeliveryCheck.Time.Timestamp
import DeliveryCheck.Text.Reader
/-!
RFC 3339 text of timestamps. Written in UTC with the fewest groups of three fraction digits that are
exact; years outside four digits carry a sign. Read with any offset.
-/

namespace DeliveryCheck

namespace Timestamp

open Decimal

/-- Four digits, or a sign and at least four where that is not enough. -/
def yearText (year : Int) : String :=
  if 0 ≤ year ∧ year ≤ 9999 then padded 4 year.toNat
  else (if year < 0 then "-" else "+") ++ padded 4 year.natAbs

def fractionText (nanos : Nat) : String :=
  if nanos = 0 then ""
  else if nanos % 1000000 = 0 then "." ++ padded 3 (nanos / 1000000)
  else if nanos % 1000 = 0 then "." ++ padded 6 (nanos / 1000)
  else "." ++ padded 9 nanos

def timeText (secondOfDay : Nat) : String :=
  padded 2 (secondOfDay / 3600) ++ ":" ++ padded 2 (secondOfDay / 60 % 60) ++ ":" ++
    padded 2 (secondOfDay % 60)

def rfc3339 (t : Timestamp) : String :=
  let seconds := t.nanos / second
  let date := Date.ofDays (seconds / secondsPerDay)
  yearText date.year ++ "-" ++ padded 2 date.month ++ "-" ++ padded 2 date.day ++ "T" ++
    timeText (seconds % secondsPerDay).toNat ++ fractionText (t.nanos % second).toNat ++ "Z"

end Timestamp

def Date.read : Reader Date := do
  let year ← Reader.number 4
  Reader.char '-'
  let month ← Reader.number 2
  Reader.char '-'
  let day ← Reader.number 2
  guard (1 ≤ month ∧ month ≤ 12 ∧ 1 ≤ day ∧ day ≤ Date.daysInMonth year month)
  return ⟨year, month, day⟩

namespace Timestamp

/-- Seconds since midnight, up to the leap second the field can hold. -/
def readTime : Reader Nat := do
  let hour ← Reader.number 2
  Reader.char ':'
  let minute ← Reader.number 2
  Reader.char ':'
  let sec ← Reader.number 2
  guard (hour ≤ 23 ∧ minute ≤ 59 ∧ sec ≤ 60)
  return hour * 3600 + minute * 60 + sec

/-- A point and the digits after it, as nanoseconds; digits past the ninth are dropped. -/
def readFraction : Reader Nat := do
  Reader.char '.'
  let digits ← Reader.run1 Char.isDigit
  return Decimal.ofDigits ((digits ++ List.replicate 9 '0').take 9)

/-- Seconds that a zone is ahead of UTC. -/
def readOffset : Reader Int := do
  let sign ← Reader.one ['Z', 'z', '+', '-'].contains
  if sign == 'Z' || sign == 'z' then return 0
  let hour ← Reader.number 2
  Reader.char ':'
  let minute ← Reader.number 2
  guard (hour ≤ 23 ∧ minute ≤ 59)
  let ahead : Int := hour * 3600 + minute * 60
  return if sign == '-' then -ahead else ahead

def read : Reader Timestamp := do
  let date ← Date.read
  let _ ← Reader.one ['T', 't', ' '].contains
  let secondOfDay ← readTime
  let nanos := (← Reader.option readFraction).getD 0
  let ahead ← readOffset
  return ofDate date (secondOfDay - ahead) nanos

def ofRfc3339? (text : String) : Option Timestamp := Reader.whole? read text.toList

end Timestamp

end DeliveryCheck
