import DeliveryCheck.Time.Timestamp
import DeliveryCheck.Proofs.Time.Parts

namespace DeliveryCheck

structure Moment where
  /-- Days since 1 January 1970. -/
  day : Int
  secondOfDay : Nat
  fraction : Nat
deriving DecidableEq

namespace Moment

def lastDay : Int := Date.toDays ⟨262142, 12, 31⟩

def longestDelay : Duration.Parts := ⟨9223372036854775, 807 * millisecond⟩

def isTooLong (delay : Duration.Parts) : Bool :=
  longestDelay.seconds < delay.seconds ∨
    longestDelay.seconds = delay.seconds ∧ longestDelay.fraction < delay.fraction

def after? (now : Moment) (delay : Duration.Parts) : Option Moment :=
  if isTooLong delay then none
  else
    let fraction := now.fraction + delay.fraction
    let seconds := now.secondOfDay + delay.seconds + fraction / second
    let day := now.day + (seconds / 86400 : Nat)
    if lastDay < day then none else some ⟨day, seconds % 86400, fraction % second⟩

end Moment

namespace Timestamp

def moment (t : Timestamp) : Moment where
  day := t.nanos / (86400 * second : Nat)
  secondOfDay := (t.nanos / second % 86400).toNat
  fraction := (t.nanos % second).toNat

theorem isTooLong_iff (delay : Duration) :
    Moment.isTooLong delay.parts = true ↔ longestDelay < delay.nanos := by
  rw [Moment.isTooLong, decide_eq_true_eq]
  simp only [Duration.parts_eq, longestDelay, Moment.longestDelay, second, millisecond]
  omega

theorem last_nanos : last.nanos = (Moment.lastDay + 1) * (86400 * second : Nat) - 1 := by decide

/-- Carries from the fractions to the seconds and from there to the days add up to the exact sum. -/
theorem moment_add (now : Timestamp) (delay : Duration) :
    let fraction := now.moment.fraction + delay.parts.fraction
    let seconds := now.moment.secondOfDay + delay.parts.seconds + fraction / second
    (⟨now.nanos + delay.nanos⟩ : Timestamp).moment =
      ⟨now.moment.day + (seconds / 86400 : Nat), seconds % 86400, fraction % second⟩ := by
  intro fraction seconds
  simp only [fraction, seconds, moment, Duration.parts_eq, Moment.mk.injEq, second]
  omega

theorem moment_after? (now : Timestamp) (delay : Duration) :
    (now.after? delay).map moment = now.moment.after? delay.parts := by
  have sum := moment_add now delay
  rw [after?, Moment.after?]
  by_cases long : longestDelay < delay.nanos
  · rw [if_neg (fun fits => Nat.not_le_of_lt long fits.1), if_pos ((isTooLong_iff delay).mpr long),
      Option.map_none]
  rw [if_neg (mt (isTooLong_iff delay).mp long)]
  have late : last.nanos < now.nanos + delay.nanos ↔
      Moment.lastDay < (⟨now.nanos + delay.nanos⟩ : Timestamp).moment.day := by
    rw [last_nanos, moment, Int.sub_one_lt_iff, ← Int.add_one_le_iff]
    exact (Int.le_ediv_iff_mul_le (by decide)).symm
  dsimp only at sum ⊢
  rw [sum] at late
  dsimp only at late
  by_cases past : last.nanos < now.nanos + delay.nanos
  · rw [if_neg (fun fits => Int.not_le.mpr past fits.2), if_pos (late.mp past), Option.map_none]
  · rw [if_pos ⟨Nat.le_of_not_lt long, Int.not_lt.mp past⟩, if_neg (mt late.mpr past), Option.map_some,
      sum]

end Timestamp

end DeliveryCheck
