import Mathlib.Data.List.Forall2
import DeliveryCheck.Scenario.Spec

namespace DeliveryCheck

namespace LetterCase

def IsLower (upper lower : Char) : Prop :=
  'A'.toNat ≤ upper.toNat ∧ upper.toNat ≤ 'Z'.toNat ∧ lower.toNat = upper.toNat + 32

def SameLetter (a b : Char) : Prop := a = b ∨ IsLower a b ∨ IsLower b a

def SameName (a b : String) : Prop := List.Forall₂ SameLetter a.toList b.toList

theorem toNat_toLower (c : Char) :
    c.toLower.toNat =
      if 'A'.toNat ≤ c.toNat ∧ c.toNat ≤ 'Z'.toNat then c.toNat + 32 else c.toNat := by
  have upper : (c.val ≥ 'A'.val ∧ c.val ≤ 'Z'.val) ↔
      'A'.toNat ≤ c.toNat ∧ c.toNat ≤ 'Z'.toNat := by
    simp only [ge_iff_le, UInt32.le_iff_toNat_le, Char.toNat]
  unfold Char.toLower
  by_cases letter : c.val ≥ 'A'.val ∧ c.val ≤ 'Z'.val
  · rw [dif_pos letter, if_pos (upper.mp letter)]
    have last : c.toNat ≤ 90 := (upper.mp letter).2
    change (c.val + ('a'.val - 'A'.val)).toNat = _
    rw [UInt32.toNat_add]
    change (c.toNat + 32) % 4294967296 = _
    omega
  · rw [dif_neg letter, if_neg (mt upper.mpr letter)]

theorem toLower_eq_iff {a b : Char} : a.toLower = b.toLower ↔ SameLetter a b := by
  rw [← Char.toNat_inj, toNat_toLower, toNat_toLower, SameLetter, ← Char.toNat_inj]
  simp only [IsLower, Char.reduceToNat]
  split <;> split <;> omega

end LetterCase

theorem Spec.sameName_iff {a b : String} : sameName a b = true ↔ LetterCase.SameName a b := by
  rw [sameName, decide_eq_true_eq, LetterCase.SameName, ← List.forall₂_eq_eq_eq,
    List.forall₂_map_left_iff, List.forall₂_map_right_iff]
  simp only [LetterCase.toLower_eq_iff]

end DeliveryCheck
