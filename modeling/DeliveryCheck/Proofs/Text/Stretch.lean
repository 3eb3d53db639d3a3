import DeliveryCheck.Text.Hexadecimal

namespace DeliveryCheck

/-- A text is at its end or goes on with a character of another kind. -/
def Stops (kind : Char → Bool) (text : List Char) : Prop := ∀ c ∈ text.head?, kind c = false

namespace Stops

variable {kind : Char → Bool} {own other rest after : List Char}

theorem nil : Stops kind [] := nofun

theorem cons {c : Char} (another : kind c = false) : Stops kind (c :: rest) := by
  rintro d shown
  cases shown
  exact another

theorem text {lead rest : String} (another : lead.toList.head?.map kind = some false) :
    Stops kind (lead ++ rest).toList := by
  rw [String.toList_append]
  cases letters : lead.toList with
  | nil => simp [letters] at another
  | cons c others =>
    rw [letters] at another
    exact .cons (Option.some.inj another)

theorem takeWhile_append (stops : Stops kind rest) (all : ∀ c ∈ own, kind c) :
    (own ++ rest).takeWhile kind = own := by
  rw [List.takeWhile_append_of_pos all]
  cases rest with
  | nil => rw [List.takeWhile_nil, List.append_nil]
  | cons c others =>
    have another := stops c rfl
    rw [List.takeWhile_cons_of_neg (by simp [another]), List.append_nil]

theorem dropWhile_append (stops : Stops kind rest) (all : ∀ c ∈ own, kind c) :
    (own ++ rest).dropWhile kind = rest := by
  rw [List.dropWhile_append_of_pos all]
  cases rest with
  | nil => rfl
  | cons c others =>
    have another := stops c rfl
    rw [List.dropWhile_cons_of_neg (by simp [another])]

theorem unique (stops : Stops kind rest) (stopsToo : Stops kind after) (all : ∀ c ∈ own, kind c)
    (allToo : ∀ c ∈ other, kind c) (same : own ++ rest = other ++ after) :
    own = other ∧ rest = after := by
  have stretches : own = other := by
    rw [← stops.takeWhile_append all, same, stopsToo.takeWhile_append allToo]
  rw [stretches] at same
  exact ⟨stretches, List.append_cancel_left same⟩

theorem unique_text {own other rest after : String} (stops : Stops kind rest.toList)
    (stopsToo : Stops kind after.toList) (all : ∀ c ∈ own.toList, kind c)
    (allToo : ∀ c ∈ other.toList, kind c) (same : own ++ rest = other ++ after) :
    own = other ∧ rest = after := by
  have shown := congrArg String.toList same
  rw [String.toList_append, String.toList_append] at shown
  obtain ⟨stretches, rests⟩ := stops.unique stopsToo all allToo shown
  exact ⟨String.toList_inj.mp stretches, String.toList_inj.mp rests⟩

end Stops

/-- Digits by repeated division, the last one being that of the remainder. -/
structure Positional (base : Nat) (digitChar : Nat → Char) (digits : Nat → List Char) : Prop where
  two_le : 2 ≤ base
  eq : ∀ n, digits n =
    if n < base then [digitChar n] else digits (n / base) ++ [digitChar (n % base)]

namespace Positional

variable {base : Nat} {digitChar : Nat → Char} {digits : Nat → List Char}

theorem ne_nil (positional : Positional base digitChar digits) (n : Nat) : digits n ≠ [] := by
  rw [positional.eq]
  split <;> simp

theorem forall_digits (positional : Positional base digitChar digits) {kind : Char → Prop}
    (each : ∀ d < base, kind (digitChar d)) (n : Nat) : ∀ c ∈ digits n, kind c := by
  have two_le := positional.two_le
  induction n using Nat.strongRecOn with
  | ind n ih =>
    intro c member
    rw [positional.eq] at member
    by_cases small : n < base
    · rw [if_pos small, List.mem_singleton] at member
      rw [member]
      exact each n small
    · rw [if_neg small, List.mem_append, List.mem_singleton] at member
      rcases member with earlier | last
      · exact ih (n / base) (Nat.div_lt_self (by omega) two_le) c earlier
      · rw [last]
        exact each (n % base) (Nat.mod_lt n (by omega))

theorem foldl_digits (positional : Positional base digitChar digits) {value : Char → Nat}
    (values : ∀ d < base, value (digitChar d) = d) (n : Nat) :
    (digits n).foldl (fun read c => base * read + value c) 0 = n := by
  have two_le := positional.two_le
  induction n using Nat.strongRecOn with
  | ind n ih =>
    rw [positional.eq]
    by_cases small : n < base
    · rw [if_pos small, List.foldl_cons, List.foldl_nil, values n small, Nat.mul_zero, Nat.zero_add]
    · have last := values (n % base) (Nat.mod_lt n (by omega))
      rw [if_neg small, List.foldl_append, ih (n / base) (Nat.div_lt_self (by omega) two_le),
        List.foldl_cons, List.foldl_nil, last, Nat.div_add_mod]

end Positional

namespace Decimal

theorem positional : Positional 10 digitChar digits := ⟨by omega, fun n => by rw [digits]⟩

theorem isDigit_digitChar {d : Nat} (below : d < 10) : (digitChar d).isDigit := by
  have each : ∀ d < 10, (digitChar d).isDigit := by decide
  exact each d below

theorem isDigit_of_mem_digits {n : Nat} {c : Char} (member : c ∈ digits n) : c.isDigit := by
  have all : ∀ c ∈ digits n, c.isDigit = true :=
    positional.forall_digits (fun _ below => isDigit_digitChar below) n
  exact all c member

theorem isDigit_of_mem_natural {n : Nat} {c : Char} (member : c ∈ (natural n).toList) : c.isDigit := by
  rw [natural, String.toList_ofList] at member
  exact isDigit_of_mem_digits member

theorem digits_ne_nil (n : Nat) : digits n ≠ [] := positional.ne_nil n

theorem ofDigits_digits (n : Nat) : ofDigits (digits n) = n :=
  positional.foldl_digits (by decide) n

@[simp] theorem natural_inj {m n : Nat} : natural m = natural n ↔ m = n := by
  constructor
  · intro same
    rw [natural, natural, String.ofList_inj] at same
    rw [← ofDigits_digits m, same, ofDigits_digits]
  · exact congrArg natural

theorem integer_inj {i j : Int} : integer i = integer j ↔ i = j := by
  have signed : ∀ m n : Nat, natural m ≠ "-" ++ natural n := by
    intro m n same
    have digit : ('-' : Char).isDigit := isDigit_of_mem_natural (n := m) (by simp [same])
    exact absurd digit (by decide)
  cases i with
  | ofNat m =>
    cases j with
    | ofNat n => rw [integer, integer, natural_inj, Int.ofNat.injEq]
    | negSucc n => simpa [integer] using signed m (n + 1)
  | negSucc m =>
    cases j with
    | ofNat n => simpa [integer] using (signed n (m + 1)).symm
    | negSucc n => simp [integer]

end Decimal

namespace Hexadecimal

theorem positional : Positional 16 digitChar digits := ⟨by omega, fun n => by rw [digits]⟩

theorem isDigit_digitChar {d : Nat} (below : d < 16) : isDigit (digitChar d) := by
  have each : ∀ d < 16, isDigit (digitChar d) := by decide
  exact each d below

theorem isDigit_of_mem_digits {n : Nat} {c : Char} (member : c ∈ digits n) : isDigit c := by
  have all : ∀ c ∈ digits n, isDigit c = true :=
    positional.forall_digits (fun _ below => isDigit_digitChar below) n
  exact all c member

theorem ofDigits_digits (n : Nat) : ofDigits 16 (digits n) = n :=
  positional.foldl_digits (by decide) n

end Hexadecimal

end DeliveryCheck
