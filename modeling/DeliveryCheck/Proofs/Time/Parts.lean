import DeliveryCheck.Time.Duration

namespace DeliveryCheck.Duration

structure Parts where
  seconds : Nat
  fraction : Nat
deriving DecidableEq

namespace Parts

def longest : Parts := ⟨UInt64.size - 1, second - 1⟩

def add (a b : Parts) : Parts :=
  let seconds := a.seconds + b.seconds
  let fraction := a.fraction + b.fraction
  if UInt64.size ≤ seconds then longest
  else if fraction < second then ⟨seconds, fraction⟩
  else if UInt64.size ≤ seconds + 1 then longest
  else ⟨seconds + 1, fraction - second⟩

def later (a b : Parts) : Parts :=
  if a.seconds < b.seconds ∨ a.seconds = b.seconds ∧ a.fraction ≤ b.fraction then b else a

end Parts

def parts (length : Duration) : Parts := ⟨length.wholeSeconds, length.subsecondNanos⟩

theorem parts_eq (length : Duration) :
    length.parts = ⟨length.nanos / second, length.nanos % second⟩ := rfl

theorem parts_clamp (nanos : Nat) :
    (clamp nanos).parts =
      if nanos / second < UInt64.size then ⟨nanos / second, nanos % second⟩ else Parts.longest := by
  by_cases fits : nanos / second < UInt64.size
  · have exact : min nanos limit = nanos := by
      simp only [limit, UInt64.size, second] at fits ⊢
      omega
    rw [if_pos fits, parts_eq, nanos_clamp, exact]
  · have full : min nanos limit = limit := by
      simp only [limit, UInt64.size, second] at fits ⊢
      omega
    rw [if_neg fits, parts_eq, nanos_clamp, full]
    rfl

theorem parts_add (a b : Duration) : (a + b).parts = a.parts.add b.parts := by
  have positive : 0 < second := by decide
  change (clamp (a.nanos + b.nanos)).parts = _
  rw [parts_clamp, parts_eq, parts_eq, Parts.add]
  dsimp only
  by_cases carries : a.nanos % second + b.nanos % second < second
  · have seconds : (a.nanos + b.nanos) / second = a.nanos / second + b.nanos / second := by
      rw [Nat.add_div positive, if_neg (Nat.not_le.mpr carries), Nat.add_zero]
    rw [Nat.add_mod, Nat.mod_eq_of_lt carries, seconds, if_pos carries]
    grind
  · have seconds : (a.nanos + b.nanos) / second = a.nanos / second + b.nanos / second + 1 := by
      rw [Nat.add_div positive, if_pos (Nat.not_lt.mp carries)]
    have fraction : (a.nanos + b.nanos) % second =
        a.nanos % second + b.nanos % second - second := by
      simp only [second] at carries ⊢
      omega
    rw [seconds, fraction, if_neg carries]
    grind

theorem le_iff_parts {a b : Duration} :
    a ≤ b ↔ a.parts.seconds < b.parts.seconds ∨
      a.parts.seconds = b.parts.seconds ∧ a.parts.fraction ≤ b.parts.fraction := by
  simp only [le_def, parts, wholeSeconds, subsecondNanos, second]
  omega

theorem parts_max (a b : Duration) : (max a b).parts = a.parts.later b.parts := by
  change (if a ≤ b then b else a).parts = _
  by_cases before : a ≤ b
  · rw [if_pos before, Parts.later, if_pos (le_iff_parts.mp before)]
  · rw [if_neg before, Parts.later, if_neg (mt le_iff_parts.mpr before)]

theorem parts_foldl {join : Duration → Duration → Duration} {joinParts : Parts → Parts → Parts}
    (joined : ∀ a b, (join a b).parts = joinParts a.parts b.parts) (lengths : List Duration)
    (start : Duration) :
    (lengths.foldl join start).parts = (lengths.map parts).foldl joinParts start.parts := by
  rw [List.foldl_map]
  exact (List.foldl_hom parts fun a b => (joined a b).symm).symm

end DeliveryCheck.Duration
