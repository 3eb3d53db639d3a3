import Mathlib.Data.List.Basic
import DeliveryCheck.Proofs.Config.TableName
import DeliveryCheck.Proofs.Text.Stretch
import DeliveryCheck.Sql.Statement
import DeliveryCheck.Text.CharacterRange

namespace DeliveryCheck

namespace Sql

/-- Quotes, the semicolon, brackets, what comments are made of, and the sign of a placeholder. -/
def marks : List Char := ['\x27', '"', '\x60', ';', '(', ')', '-', '/', '*', '#', '$']

def isDelimiter (c : Char) : Bool := isBlank c || marks.contains c

theorem isBlank_of_dotted {name : List Char} (dotted : TableName.Dotted name) {c : Char}
    (member : c ∈ name) : isBlank c = false := by
  have range : 46 ≤ c.toNat ∧ c.toNat ≤ 122 := by
    rcases dotted.character member with (upper | lower) | digit | rfl | rfl
    · have codes : 65 ≤ c.toNat ∧ c.toNat ≤ 90 := upper
      omega
    · have codes : 97 ≤ c.toNat ∧ c.toNat ≤ 122 := lower
      omega
    · have codes : 48 ≤ c.toNat ∧ c.toNat ≤ 57 := digit
      omega
    · decide
    · decide
  simp only [isBlank, CharacterRange.covers, CharacterRange.blanks]
  simp
  omega

theorem isDelimiter_of_dotted {name : List Char} (dotted : TableName.Dotted name) {c : Char}
    (member : c ∈ name) : isDelimiter c = false := by
  have unmarked : c ∉ marks := by
    have each : marks.all fun mark =>
        ¬ (TableName.Letter mark ∨ TableName.Digit mark ∨ mark = '_' ∨ mark = '.') := by decide
    exact fun mark => of_decide_eq_true (List.all_eq_true.mp each c mark) (dotted.character member)
  simp [isDelimiter, isBlank_of_dotted dotted member, unmarked]

/-- The word that stands behind a lead, up to the next blank. -/
def wordBehind? (lead text : String) : Option String :=
  (lead.toList.isPrefixOf? text.toList).map fun rest =>
    String.ofList (rest.takeWhile fun c => !isBlank c)

def insertLead : String := "INSERT INTO "

def queryLead : String :=
  "SELECT is_processed, COALESCE(error_count, 0) AS error_count, last_error FROM "

def tableIn? (text : String) : Option String :=
  (wordBehind? insertLead text).or (wordBehind? queryLead text)

theorem wordBehind?_append {lead word rest : String} (whole : ∀ c ∈ word.toList, isBlank c = false)
    (stops : Stops (fun c => !isBlank c) rest.toList) :
    wordBehind? lead (lead ++ (word ++ rest)) = some word := by
  have behind : lead.toList.isPrefixOf? (lead ++ (word ++ rest)).toList =
      some (word.toList ++ rest.toList) := by
    rw [List.isPrefixOf?_eq_some_iff_append_eq, String.toList_append, String.toList_append]
  rw [wordBehind?, behind, Option.map_some, stops.takeWhile_append (by simpa using whole),
    String.ofList_toList]

theorem wordBehind?_insertLead_query (rest : String) : wordBehind? insertLead (queryLead ++ rest) = none := by
  have differ : insertLead.toList.isPrefixOf? (queryLead ++ rest).toList = none := by
    cases found : insertLead.toList.isPrefixOf? (queryLead ++ rest).toList with
    | none => rfl
    | some others =>
      rw [List.isPrefixOf?_eq_some_iff_append_eq] at found
      simp [insertLead, queryLead] at found
  rw [wordBehind?, differ, Option.map_none]

theorem insertText_split (name : String) (record : Record) :
    ∃ rest, insertText name record = insertLead ++ (name ++ (" (" ++ rest)) := by
  refine ⟨", ".intercalate (columns record) ++ (") VALUES (" ++
    (", ".intercalate (placeholders (columns record).length) ++ ")")), ?_⟩
  change insertLead ++ name ++ " (" ++ ", ".intercalate (columns record) ++ ") VALUES (" ++
    ", ".intercalate (placeholders (columns record).length) ++ ")" = _
  simp only [String.append_assoc]

theorem statusText_split (name : String) :
    statusText name = queryLead ++ (name ++ (" WHERE id = $1" ++ "")) := by
  change queryLead ++ name ++ " WHERE id = $1" = _
  rw [String.append_assoc, String.append_empty]

theorem wordBehind?_insertText {name : String} (dotted : TableName.Dotted name.toList)
    (record : Record) : wordBehind? insertLead (insertText name record) = some name := by
  obtain ⟨rest, split⟩ := insertText_split name record
  rw [split, wordBehind?_append (fun _ => isBlank_of_dotted dotted) (.text (by decide))]

theorem tableIn?_insertText {name : String} (dotted : TableName.Dotted name.toList) (record : Record) :
    tableIn? (insertText name record) = some name := by
  rw [tableIn?, wordBehind?_insertText dotted, Option.some_or]

theorem tableIn?_statusText {name : String} (dotted : TableName.Dotted name.toList) :
    tableIn? (statusText name) = some name := by
  rw [tableIn?, statusText_split, wordBehind?_insertLead_query, Option.none_or,
    wordBehind?_append (fun _ => isBlank_of_dotted dotted) (.text (by decide))]

/-- What it means that a name can stand for a table in statements. -/
structure Embeds (name : String) : Prop where
  harmless : ∀ c ∈ name.toList, isDelimiter c = false
  insertion : ∀ record, tableIn? (insertion name record).text = some name
  query : ∀ id, tableIn? (statusQuery name id).text = some name

/-- The accepted names are the identifiers and the pairs of identifiers with a dot between. In every
statement such a name is a word without delimiters, which is read back from there. -/
theorem accepted_names_embed (name : String) :
    (TableName.check name = .ok () ↔ TableName.Dotted name.toList) ∧
      (¬ TableName.Dotted name.toList → TableName.check name = .error (.invalidTable name)) ∧
      (TableName.check name = .ok () → Embeds name) := by
  refine ⟨TableName.check_eq_ok_iff, TableName.check_of_not_dotted, fun accepted => ?_⟩
  have dotted := TableName.check_eq_ok_iff.mp accepted
  exact ⟨fun _ => isDelimiter_of_dotted dotted, tableIn?_insertText dotted,
    fun _ => tableIn?_statusText dotted⟩

end Sql

end DeliveryCheck
