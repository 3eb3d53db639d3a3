import Mathlib.Algebra.GroupWithZero.Nat
import DeliveryCheck.Proofs.Text.Quoted
import DeliveryCheck.Record.Uuid
import DeliveryCheck.Text.Colour

namespace DeliveryCheck

def feeds (text : String) : Nat := text.toList.count '\n'

def OneLine (text : String) : Prop := '\n' ∉ text.toList

instance (text : String) : Decidable (OneLine text) := inferInstanceAs (Decidable ('\n' ∉ text.toList))

theorem feeds_append (text rest : String) : feeds (text ++ rest) = feeds text + feeds rest := by
  rw [feeds, String.toList_append, List.count_append, feeds, feeds]

theorem feeds_eq_zero_iff {text : String} : feeds text = 0 ↔ OneLine text := List.count_eq_zero

@[simp] theorem oneLine_append {text rest : String} :
    OneLine (text ++ rest) ↔ OneLine text ∧ OneLine rest := by
  rw [← feeds_eq_zero_iff, feeds_append, Nat.add_eq_zero_iff, feeds_eq_zero_iff, feeds_eq_zero_iff]

namespace OneLine

theorem of_kind {kind : Char → Bool} {text : String} (all : ∀ c ∈ text.toList, kind c)
    (another : kind '\n' = false) : OneLine text := by
  intro feed
  have same := all '\n' feed
  rw [another] at same
  exact Bool.false_ne_true same

@[simp] theorem natural (n : Nat) : OneLine (Decimal.natural n) :=
  of_kind (fun _ => Decimal.isDigit_of_mem_natural) (by decide)

@[simp] theorem integer (i : Int) : OneLine (Decimal.integer i) := by
  cases i with
  | ofNat n => exact natural n
  | negSucc n => exact oneLine_append.mpr ⟨by decide, natural (n + 1)⟩

@[simp] theorem quoted (text : String) : OneLine (quoted text) := by
  -- the line feed itself is written as a backslash and a letter
  have written : ∀ c, '\n' ∉ Quoted.encodeChar c := by
    intro c
    fun_cases Quoted.encodeChar c with
    | case1 | case2 | case3 | case4 | case5 | case6 => decide
    | case7 =>
      have digits : '\n' ∉ Hexadecimal.digits c.toNat := fun feed =>
        absurd (Hexadecimal.isDigit_of_mem_digits feed) (by decide)
      simp [Quoted.codePoint, digits]
    | case8 zero tab carriage feed => simpa using Ne.symm feed
  have body : '\n' ∉ text.toList.flatMap Quoted.encodeChar := by
    intro feed
    obtain ⟨c, _, within⟩ := List.mem_flatMap.mp feed
    exact written c within
  simp [OneLine, DeliveryCheck.quoted, Quoted.encode, body]

@[simp] theorem uuid (id : Uuid) : OneLine id.text := by
  have groups : ∀ top count, '\n' ∉ id.group top count := by
    intro top count
    induction count generalizing top with
    | zero => simp [Uuid.group]
    | succ count ih =>
      have below : id.digitAt (top - 1) < 16 := Nat.mod_lt _ (by decide)
      have digit := Hexadecimal.isDigit_digitChar below
      intro feed
      rcases List.mem_cons.mp feed with first | later
      · rw [← first] at digit
        exact absurd digit (by decide)
      · exact ih (top - 1) later
  simp [OneLine, Uuid.text, groups]

end OneLine

theorem Style.mem_resume {style : Style} {text : List Char} {c : Char}
    (member : c ∈ style.resume text) : c ∈ reset ∨ c ∈ style.opening ∨ c ∈ text := by
  fun_induction style.resume text with
  | case1 rest ih =>
    simp only [List.mem_append] at member
    rcases member with (first | again) | later
    · exact .inl first
    · exact .inr (.inl again)
    · rcases ih later with first | again | own
      · exact .inl first
      · exact .inr (.inl again)
      · exact .inr (.inr (by simp [own]))
  | case2 d rest other ih =>
    rcases List.mem_cons.mp member with rfl | later
    · exact .inr (.inr (List.mem_cons_self ..))
    · rcases ih later with first | again | own
      · exact .inl first
      · exact .inr (.inl again)
      · exact .inr (.inr (List.mem_cons_of_mem _ own))
  | case3 => simp at member

theorem OneLine.paint {style : Style} {text : String} (codes : OneLine style.codes) (own : OneLine text)
    (colours : Bool) : OneLine (style.paint colours text) := by
  have opening : '\n' ∉ style.opening := by
    have own : '\n' ∉ style.codes.toList := codes
    simp [Style.opening, own]
  have reset : '\n' ∉ Style.reset := by decide
  have resumed : '\n' ∉ style.resume text.toList := by
    intro feed
    rcases Style.mem_resume feed with first | again | shown
    · exact reset first
    · exact opening again
    · exact own shown
  cases colours with
  | false => exact own
  | true => simp [OneLine, Style.paint, opening, reset, resumed]

theorem sum_feeds_eq_zero_iff {texts : List String} :
    (texts.map feeds).sum = 0 ↔ ∀ text ∈ texts, OneLine text := by
  simp only [List.sum_eq_zero_iff_forall_eq_nat, List.forall_mem_map, feeds_eq_zero_iff]

/-- What texts look like that are printed one after another, each with a line feed behind it. -/
def typed (texts : List String) : List Char := texts.flatMap fun text => text.toList ++ ['\n']

/-- The lines of a text in which every line is ended by a line feed. -/
def seenLines (text : List Char) : List (List Char) := (text.splitOn '\n').dropLast

theorem length_splitOn (text : List Char) : (text.splitOn '\n').length = text.count '\n' + 1 := by
  induction text with
  | nil => rw [List.splitOn_nil]; rfl
  | cons c rest ih =>
    rw [List.splitOn_cons_eq_if_modifyHead, List.count_cons]
    by_cases feed : c = '\n'
    · simp [feed, ih]
    · simp [feed, ih]

theorem seenLines_typed (texts : List String) :
    seenLines (typed texts) = texts.flatMap fun text => text.toList.splitOn '\n' := by
  induction texts with
  | nil => rfl
  | cons text rest ih =>
    have split : typed (text :: rest) = text.toList ++ '\n' :: typed rest := by simp [typed]
    rw [split, seenLines, List.splitOn_append_cons_self,
      List.dropLast_append_of_ne_nil (List.splitOn_ne_nil _ _), List.flatMap_cons, ← ih]
    rfl

theorem length_seenLines_typed (texts : List String) :
    (seenLines (typed texts)).length = texts.length + (texts.map feeds).sum := by
  rw [seenLines_typed]
  induction texts with
  | nil => rfl
  | cons text rest ih =>
    rw [List.flatMap_cons, List.length_append, ih, length_splitOn, List.map_cons, List.sum_cons, feeds,
      List.length_cons]
    omega

theorem seenLines_typed_iff {texts : List String} :
    seenLines (typed texts) = texts.map String.toList ↔ ∀ text ∈ texts, OneLine text := by
  constructor
  · intro same
    have lengths := congrArg List.length same
    rw [length_seenLines_typed, List.length_map] at lengths
    exact sum_feeds_eq_zero_iff.mp (by omega)
  · intro each
    have alone : ∀ text ∈ texts, text.toList.splitOn '\n' = [text.toList] :=
      fun text member => List.splitOn_eq_singleton (each text member)
    rw [seenLines_typed, List.map_eq_flatMap, List.flatMap_def, List.map_congr_left alone,
      List.flatMap_def]

end DeliveryCheck
