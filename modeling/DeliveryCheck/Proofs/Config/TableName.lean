import DeliveryCheck.Config.Basic

namespace DeliveryCheck.TableName

def Letter (c : Char) : Prop := ('A' ≤ c ∧ c ≤ 'Z') ∨ ('a' ≤ c ∧ c ≤ 'z')

def Digit (c : Char) : Prop := '0' ≤ c ∧ c ≤ '9'

instance (c : Char) : Decidable (Letter c) :=
  inferInstanceAs (Decidable (('A' ≤ c ∧ c ≤ 'Z') ∨ ('a' ≤ c ∧ c ≤ 'z')))

instance (c : Char) : Decidable (Digit c) := inferInstanceAs (Decidable ('0' ≤ c ∧ c ≤ '9'))

inductive Identifier : List Char → Prop where
  | opened {lead rest} (opens : Letter lead ∨ lead = '_')
    (goes : ∀ c ∈ rest, Letter c ∨ Digit c ∨ c = '_') : Identifier (lead :: rest)

inductive Dotted : List Char → Prop where
  | plain {table} (own : Identifier table) : Dotted table
  | qualified {schema table} (first : Identifier schema) (second : Identifier table) :
    Dotted (schema ++ '.' :: table)

theorem isAlpha_iff {c : Char} : c.isAlpha ↔ Letter c := by
  change (decide ('A'.val ≤ c.val ∧ c.val ≤ 'Z'.val) ||
    (decide ('a'.val ≤ c.val) && decide (c.val ≤ 'z'.val))) = true ↔ Letter c
  simp [Letter, Char.le_def]

theorem isDigit_iff {c : Char} : c.isDigit ↔ Digit c := by
  simp [Char.isDigit, Digit, Char.le_def]

theorem isLead_iff {c : Char} : isLead c ↔ Letter c ∨ c = '_' := by
  simp [isLead, isAlpha_iff]

theorem isPart_iff {c : Char} : isPart c ↔ Letter c ∨ Digit c ∨ c = '_' := by
  simp [isPart, Char.isAlphanum, isAlpha_iff, isDigit_iff, or_assoc]

theorem isIdentifier_iff {text : List Char} : isIdentifier text ↔ Identifier text := by
  constructor
  · intro valid
    cases text with
    | nil => cases valid
    | cons lead rest =>
      rw [isIdentifier, Bool.and_eq_true, List.all_eq_true] at valid
      exact .opened (isLead_iff.mp valid.1) fun c member => isPart_iff.mp (valid.2 c member)
  · rintro ⟨opens, goes⟩
    rw [isIdentifier, Bool.and_eq_true, List.all_eq_true]
    exact ⟨isLead_iff.mpr opens, fun c member => isPart_iff.mpr (goes c member)⟩

theorem Identifier.character {text : List Char} (identifier : Identifier text) {c : Char}
    (member : c ∈ text) : Letter c ∨ Digit c ∨ c = '_' := by
  cases identifier with
  | opened opens goes =>
    rcases List.mem_cons.mp member with rfl | later
    · exact opens.imp_right .inr
    · exact goes c later

theorem Identifier.dot_not_mem {text : List Char} (identifier : Identifier text) : '.' ∉ text := by
  intro member
  rcases identifier.character member with letter | digit | underscore
  · exact absurd letter (by decide)
  · exact absurd digit (by decide)
  · exact absurd underscore (by decide)

theorem Dotted.character {text : List Char} (dotted : Dotted text) {c : Char} (member : c ∈ text) :
    Letter c ∨ Digit c ∨ c = '_' ∨ c = '.' := by
  have part : ∀ {own : List Char}, Identifier own → c ∈ own → Letter c ∨ Digit c ∨ c = '_' ∨ c = '.' :=
    fun identifier member => (identifier.character member).imp_right fun other => other.imp_right .inl
  cases dotted with
  | plain own => exact part own member
  | qualified first second =>
    rcases List.mem_append.mp member with before | after
    · exact part first before
    · rcases List.mem_cons.mp after with dot | behind
      · exact .inr (.inr (.inr dot))
      · exact part second behind

theorem segments_eq_splitOn (text : List Char) : segments text = text.splitOn '.' := by
  induction text with
  | nil => rfl
  | cons c rest ih =>
    rw [segments, List.splitOn_cons_eq_if_modifyHead, ih]
    by_cases dot : c = '.'
    · simp [dot]
    · have some := List.splitOn_ne_nil '.' rest
      cases pieces : rest.splitOn '.' with
      | nil => exact absurd pieces some
      | cons first others => simp [dot]

theorem isValid_iff {name : String} : isValid name ↔ Dotted name.toList := by
  rw [isValid, Bool.and_eq_true, decide_eq_true_eq, List.all_eq_true, segments_eq_splitOn]
  simp only [isIdentifier_iff]
  constructor
  · rintro ⟨few, each⟩
    have joined : ['.'].intercalate (name.toList.splitOn '.') = name.toList :=
      List.intercalate_splitOn '.'
    have some := List.splitOn_ne_nil '.' name.toList
    generalize name.toList.splitOn '.' = pieces at few each joined some
    rw [← joined]
    match pieces with
    | [] => exact absurd rfl some
    | [table] => simpa using Dotted.plain (each table (by simp))
    | [schema, table] => simpa using Dotted.qualified (each schema (by simp)) (each table (by simp))
    | _ :: _ :: _ :: _ => simp at few
  · intro dotted
    have cut : ∀ pieces : List (List Char), (∀ piece ∈ pieces, Identifier piece) → pieces ≠ [] →
        (['.'].intercalate pieces).splitOn '.' = pieces := fun pieces each some =>
      List.splitOn_intercalate '.' (fun piece member => (each piece member).dot_not_mem) some
    generalize name.toList = text at dotted
    cases dotted with
    | plain own =>
      have one := cut [text] (by simpa using own) (by simp)
      rw [List.intercalate_singleton] at one
      rw [one]
      simpa using own
    | @qualified schema table first second =>
      have both : ∀ piece ∈ [schema, table], Identifier piece := by simp [first, second]
      have two := cut [schema, table] both (by simp)
      have joined : ['.'].intercalate [schema, table] = schema ++ '.' :: table := by simp
      rw [joined] at two
      rw [two]
      exact ⟨by simp, both⟩

theorem check_eq_ok_iff {name : String} : check name = .ok () ↔ Dotted name.toList := by
  rw [← isValid_iff, check]
  split <;> simp_all

theorem check_of_not_dotted {name : String} (odd : ¬ Dotted name.toList) :
    check name = .error (.invalidTable name) := by
  have refused : ¬ isValid name := fun valid => odd (isValid_iff.mp valid)
  rw [check, if_neg refused]

end DeliveryCheck.TableName
