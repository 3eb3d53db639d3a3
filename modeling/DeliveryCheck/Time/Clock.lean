import DeliveryCheck.Time.Duration
/-!
The clock of a run. An instant is the number of nanoseconds since the run's clock started; sleeping
ends exactly when it should, and a run's deadline is noticed at the next whole millisecond.
-/

namespace DeliveryCheck

abbrev Instant := Nat

namespace Instant

/-- Instants from here on cannot be written. -/
def limit : Nat := 9223372036854775807 * second

def after? (start : Instant) (length : Duration) : Option Instant :=
  if start + length.nanos < limit then some (start + length.nanos) else none

/-- How far off a wait is put whose end cannot be written: thirty years. -/
def farAway : Nat := 86400 * 365 * 30 * second

def after (start : Instant) (length : Duration) : Instant :=
  (start.after? length).getD (start + farAway)

/-- The time between two instants, none if they are out of order. -/
def elapsed (start now : Instant) : Duration := .clamp (now - start)

def roundUp (t : Instant) : Instant := (t + (millisecond - 1)) / millisecond * millisecond

def millis (t : Instant) : Nat := t / millisecond

theorem after?_eq_some_iff {start finish : Instant} {length : Duration} :
    start.after? length = some finish ↔
      start + length.nanos < limit ∧ finish = start + length.nanos := by
  unfold after?
  split <;> grind

theorem after_of_lt {start : Instant} {length : Duration} (fits : start + length.nanos < limit) :
    start.after length = start + length.nanos := by
  simp [after, after?, fits]

end Instant

end DeliveryCheck
