import DeliveryCheck.Proofs.Text.Stretch
import DeliveryCheck.Text.Quoted

namespace DeliveryCheck

theorem Hexadecimal.charOf?_digits (c : Char) : charOf? (digits c.toNat) = some c := by
  have valid : c.toNat.isValidChar := c.valid
  rw [charOf?, ofDigits_digits, if_pos valid, Char.ofNat_toNat]

namespace Quoted

def readEscape : List Char → Option (Char × List Char)
  | '0' :: rest => some ('\x00', rest)
  | 't' :: rest => some ('\t', rest)
  | 'r' :: rest => some ('\r', rest)
  | 'n' :: rest => some ('\n', rest)
  | '"' :: rest => some ('"', rest)
  | '\\' :: rest => some ('\\', rest)
  | 'u' :: '\x7b' :: rest =>
    (Hexadecimal.charOf? (rest.takeWhile Hexadecimal.isDigit)).map fun c =>
      (c, (rest.dropWhile Hexadecimal.isDigit).drop 1)
  | _ => none

def readChar : List Char → Option (Char × List Char)
  | [] => none
  | c :: rest => if c = '\\' then readEscape rest else some (c, rest)

theorem readChar_codePoint (c : Char) (rest : List Char) :
    readChar (codePoint c ++ rest) = some (c, rest) := by
  have stops : Stops Hexadecimal.isDigit ('\x7d' :: rest) := .cons (by decide)
  have all : ∀ d ∈ Hexadecimal.digits c.toNat, Hexadecimal.isDigit d :=
    fun _ => Hexadecimal.isDigit_of_mem_digits
  have split : codePoint c ++ rest =
      '\\' :: 'u' :: '\x7b' :: (Hexadecimal.digits c.toNat ++ '\x7d' :: rest) := by
    simp [codePoint]
  rw [split, readChar, if_pos rfl, readEscape, stops.takeWhile_append all,
    stops.dropWhile_append all, Hexadecimal.charOf?_digits]
  rfl

theorem readChar_encodeChar (c : Char) (rest : List Char) :
    readChar (encodeChar c ++ rest) = some (c, rest) := by
  fun_cases encodeChar c with
  | case1 | case2 | case3 | case4 | case5 | case6 =>
    subst c
    rfl
  | case7 => exact readChar_codePoint c rest
  | case8 zero tab carriage feed quote backslash => simp [readChar, backslash]

theorem head_encodeChar (c : Char) : ∃ first others, encodeChar c = first :: others ∧ first ≠ '"' := by
  fun_cases encodeChar c with
  | case1 | case2 | case3 | case4 | case5 | case6 | case7 => exact ⟨'\\', _, rfl, by decide⟩
  | case8 zero tab carriage feed quote => exact ⟨c, [], rfl, quote⟩

/-- Quoted text ends at its own closing quote. -/
theorem body_unique {text other rest after : List Char}
    (same : text.flatMap encodeChar ++ '"' :: rest = other.flatMap encodeChar ++ '"' :: after) :
    text = other ∧ rest = after := by
  -- the written form of a character is never taken for the closing quote
  have closed : ∀ (c : Char) (others before after : List Char),
      (c :: others).flatMap encodeChar ++ before ≠ '"' :: after := by
    intro c others before after same
    obtain ⟨first, others, written, quote⟩ := head_encodeChar c
    rw [List.flatMap_cons, written] at same
    exact quote (List.cons.inj same).1
  induction text generalizing other with
  | nil =>
    cases other with
    | nil => exact ⟨rfl, (List.cons.inj same).2⟩
    | cons d others => exact absurd same.symm (closed d others _ _)
  | cons c own ih =>
    cases other with
    | nil => exact absurd same (closed c own _ _)
    | cons d others =>
      rw [List.flatMap_cons, List.flatMap_cons, List.append_assoc, List.append_assoc] at same
      have first := readChar_encodeChar c (own.flatMap encodeChar ++ '"' :: rest)
      rw [same, readChar_encodeChar] at first
      obtain ⟨chars, onward⟩ := Prod.mk.inj (Option.some.inj first)
      obtain ⟨texts, rests⟩ := ih onward.symm
      exact ⟨by rw [chars, texts], rests⟩

end Quoted

@[simp] theorem quoted_inj {text other : String} : quoted text = quoted other ↔ text = other := by
  constructor
  · intro same
    rw [quoted, quoted, String.ofList_inj, Quoted.encode, Quoted.encode] at same
    exact String.toList_inj.mp (Quoted.body_unique (List.cons.inj same).2).1
  · exact congrArg quoted

end DeliveryCheck
