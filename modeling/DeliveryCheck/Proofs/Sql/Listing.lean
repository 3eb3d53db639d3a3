import Mathlib.Data.List.Basic
import DeliveryCheck.Proofs.Text.Stretch
import DeliveryCheck.Text.CharacterRange

namespace DeliveryCheck

namespace Sql

def endsItem (c : Char) : Bool := c == ',' || c == ')' || isBlank c

def IsItem (text : String) : Prop := ∀ c ∈ text.toList, endsItem c = false

def items (inside : List Char) : List String :=
  (inside.splitOn ',').map fun item => String.ofList (item.dropWhile isBlank)

/-- The items of the list whose bracket a lead opens, and what stands behind the list. -/
def listBehind? (lead : String) (text : List Char) : Option (List String × List Char) :=
  (lead.toList.isPrefixOf? text).bind fun behind =>
    match behind.dropWhile (· != ')') with
    | [] => none
    | _ :: rest => some (items (behind.takeWhile (· != ')')), rest)

namespace IsItem

variable {text : String} {c : Char}

theorem character (item : IsItem text) (member : c ∈ text.toList) :
    c ≠ ',' ∧ c ≠ ')' ∧ isBlank c = false := by
  have inside := item c member
  simpa [endsItem, and_assoc] using inside

theorem comma_not_mem (item : IsItem text) : ',' ∉ text.toList :=
  fun member => (item.character member).1 rfl

theorem dropBlanks (item : IsItem text) : text.toList.dropWhile isBlank = text.toList := by
  cases letters : text.toList with
  | nil => rfl
  | cons c rest =>
    have first := item.character (c := c) (by simp [letters])
    rw [List.dropWhile_cons_of_neg (by simp [first.2.2])]

end IsItem

theorem forall_intercalate {kind : Char → Prop} {separator : String} {texts : List String}
    (between : ∀ c ∈ separator.toList, kind c) (each : ∀ text ∈ texts, ∀ c ∈ text.toList, kind c) :
    ∀ c ∈ (separator.intercalate texts).toList, kind c := by
  induction texts with
  | nil => simp
  | cons text others ih =>
    have own := each text (List.mem_cons_self ..)
    cases others with
    | nil => simpa using own
    | cons next later =>
      have rest := ih fun other member => each other (List.mem_cons_of_mem _ member)
      intro c member
      rw [String.intercalate_cons_cons, String.toList_append, String.toList_append,
        List.mem_append, List.mem_append] at member
      rcases member with (first | separating) | behind
      · exact own c first
      · exact between c separating
      · exact rest c behind

theorem items_blank (inside : List Char) : items (' ' :: inside) = items inside := by
  have another : ((' ' : Char) == ',') = false := by decide
  have blank : isBlank ' ' = true := by decide
  cases pieces : inside.splitOn ',' with
  | nil => exact absurd pieces (List.splitOn_ne_nil ',' inside)
  | cons first others =>
    simp [items, List.splitOn_cons_eq_if_modifyHead, another, pieces, blank]

theorem items_comma {text : String} (item : IsItem text) (inside : List Char) :
    items (text.toList ++ ',' :: inside) = text :: items inside := by
  rw [items, List.splitOn_append_cons_self_of_not_mem item.comma_not_mem, List.map_cons,
    item.dropBlanks, String.ofList_toList, items]

theorem items_intercalate {texts : List String} (nonempty : texts ≠ [])
    (each : ∀ text ∈ texts, IsItem text) : items (", ".intercalate texts).toList = texts := by
  induction texts with
  | nil => exact absurd rfl nonempty
  | cons text others ih =>
    have item := each text (List.mem_cons_self ..)
    cases others with
    | nil =>
      rw [String.intercalate_singleton, items, List.splitOn_eq_singleton item.comma_not_mem,
        List.map_singleton, item.dropBlanks, String.ofList_toList]
    | cons next later =>
      have rest := ih (by simp) fun other member => each other (List.mem_cons_of_mem _ member)
      have split : (", ".intercalate (text :: next :: later)).toList =
          text.toList ++ ',' :: ' ' :: (", ".intercalate (next :: later)).toList := by
        rw [String.intercalate_cons_cons, String.toList_append, String.toList_append,
          List.append_assoc]
        rfl
      rw [split, items_comma item, items_blank, rest]

theorem listBehind?_append {lead : String} {texts : List String} (nonempty : texts ≠ [])
    (each : ∀ text ∈ texts, IsItem text) (rest : List Char) :
    listBehind? lead (lead.toList ++ ((", ".intercalate texts).toList ++ ')' :: rest)) =
      some (texts, rest) := by
  have between : ∀ c ∈ ", ".toList, (c != ')') = true := by simp
  have inside : ∀ c ∈ (", ".intercalate texts).toList, (c != ')') = true := by
    refine forall_intercalate between fun text member c letter => ?_
    simpa using ((each text member).character letter).2.1
  have behind : lead.toList.isPrefixOf?
      (lead.toList ++ ((", ".intercalate texts).toList ++ ')' :: rest)) =
        some ((", ".intercalate texts).toList ++ ')' :: rest) :=
    List.isPrefixOf?_eq_some_iff_append_eq.mpr rfl
  have stops : Stops (· != ')') (')' :: rest) := .cons (by decide)
  rw [listBehind?, behind, Option.bind_some, stops.dropWhile_append inside,
    stops.takeWhile_append inside, items_intercalate nonempty each]

end Sql

end DeliveryCheck
