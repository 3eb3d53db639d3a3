import DeliveryCheck.Time.Clock
import DeliveryCheck.Time.Calendar

namespace DeliveryCheck

/-- Nanoseconds since 1970, before it if negative. -/
structure Timestamp where
  nanos : Int
deriving DecidableEq

namespace Timestamp

def secondsPerDay : Int := 86400

def ofDate (date : Date) (secondOfDay : Int) (nanos : Nat) : Timestamp :=
  ⟨(date.toDays * secondsPerDay + secondOfDay) * second + nanos⟩

/-- The last instant of the calendar, at the end of the year 262142. -/
def last : Timestamp := ofDate ⟨262142, 12, 31⟩ (secondsPerDay - 1) (second - 1)

def longestDelay : Nat := 9223372036854775807 * millisecond

/-- The instant a delay later, unless the delay is too long or the calendar ends before. -/
def after? (now : Timestamp) (delay : Duration) : Option Timestamp :=
  if delay.nanos ≤ longestDelay ∧ now.nanos + delay.nanos ≤ last.nanos then
    some ⟨now.nanos + delay.nanos⟩
  else
    none

def timeLeft (due now : Timestamp) : Duration := .clamp (due.nanos - now.nanos).toNat

end Timestamp

end DeliveryCheck
