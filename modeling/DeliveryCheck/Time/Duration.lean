/-!
Lengths of time, counted exactly in nanoseconds and bounded by the longest one that can be written.
Addition is exact until it meets the bound and stays there.
-/

namespace DeliveryCheck

/-- Nanoseconds in a second. -/
def second : Nat := 1000000000

def millisecond : Nat := 1000000

/-- The longest length: 64 bits of whole seconds and a full fraction. -/
def Duration.limit : Nat := UInt64.size * second - 1

structure Duration where
  nanos : Nat
  nanos_le : nanos ≤ Duration.limit
deriving DecidableEq

namespace Duration

/-- The nearest length that can be written. -/
def clamp (nanos : Nat) : Duration := ⟨min nanos limit, Nat.min_le_right ..⟩

def zero : Duration := clamp 0

def longest : Duration := clamp limit

instance : Inhabited Duration := ⟨zero⟩

instance : Add Duration := ⟨fun a b => clamp (a.nanos + b.nanos)⟩

instance : LE Duration := ⟨fun a b => a.nanos ≤ b.nanos⟩

instance : LT Duration := ⟨fun a b => a.nanos < b.nanos⟩

instance (a b : Duration) : Decidable (a ≤ b) := inferInstanceAs (Decidable (a.nanos ≤ b.nanos))

instance (a b : Duration) : Decidable (a < b) := inferInstanceAs (Decidable (a.nanos < b.nanos))

instance : Max Duration := ⟨fun a b => if a ≤ b then b else a⟩

theorem eq_of_nanos_eq {a b : Duration} (same : a.nanos = b.nanos) : a = b := by
  cases a
  cases b
  simp_all

@[simp] theorem nanos_clamp (n : Nat) : (clamp n).nanos = min n limit := rfl

@[simp] theorem nanos_zero : zero.nanos = 0 := rfl

@[simp] theorem nanos_add (a b : Duration) : (a + b).nanos = min (a.nanos + b.nanos) limit := rfl

theorem le_def (a b : Duration) : a ≤ b ↔ a.nanos ≤ b.nanos := Iff.rfl

@[simp] theorem nanos_max (a b : Duration) : (max a b).nanos = max a.nanos b.nanos := by
  change (if a ≤ b then b else a).nanos = _
  split <;> simp_all only [le_def] <;> omega

def ofSeconds (count : UInt64) : Duration := clamp (count.toNat * second)

def ofMillis (count : UInt64) : Duration := clamp (count.toNat * millisecond)

theorem nanos_ofSeconds (count : UInt64) : (ofSeconds count).nanos = count.toNat * second := by
  have bound := count.toNat_lt
  simp only [ofSeconds, nanos_clamp, limit, UInt64.size, second]
  omega

theorem nanos_ofMillis (count : UInt64) : (ofMillis count).nanos = count.toNat * millisecond := by
  have bound := count.toNat_lt
  simp only [ofMillis, nanos_clamp, limit, UInt64.size, second, millisecond]
  omega

def wholeSeconds (d : Duration) : Nat := d.nanos / second

def subsecondNanos (d : Duration) : Nat := d.nanos % second

/-- Whole milliseconds, at most as many as 64 bits hold. -/
def millis (d : Duration) : Nat := min (d.nanos / millisecond) (UInt64.size - 1)

end Duration

end DeliveryCheck
