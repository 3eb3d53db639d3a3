import Mathlib.Data.List.Nodup
import DeliveryCheck.Proofs.Sql.Listing
import DeliveryCheck.Sql.Statement

namespace DeliveryCheck

namespace Sql

inductive Column where
  | id
  | userId
  | title
  | message
  | notificationType
  | priority
  | deliverAt
deriving DecidableEq

namespace Column

def all : List Column := [id, userId, title, message, notificationType, priority, deliverAt]

def name : Column → String
  | id => "id"
  | userId => "user_id"
  | title => "title"
  | message => "message"
  | notificationType => "notification_type"
  | priority => "priority"
  | deliverAt => "deliver_at"

/-- The field that a column stands for, none if the record leaves it unset. -/
def value? (record : Record) : Column → Option Value
  | id => some (.uuid record.id)
  | userId => some (.uuid record.recipient)
  | title => some (.text record.title)
  | message => some (.text record.body)
  | notificationType => some (.text record.category)
  | priority => record.priority.map .text
  | deliverAt => record.deliverAt.map .timestamp

theorem mem_all (column : Column) : column ∈ all := by
  cases column <;> decide

theorem name_injective : Function.Injective name := by
  have found : ∀ column : Column, all.find? (fun other => other.name == column.name) = some column := by
    intro column
    cases column <;> decide
  intro column other same
  have first := found column
  rw [same, found other] at first
  exact (Option.some.inj first).symm

theorem isItem_name (column : Column) : IsItem column.name := by
  have plain : column.name.toList.all fun c => !endsItem c := by
    cases column <;> decide
  simpa [IsItem] using plain

end Column

def entries (record : Record) : List (Column × Value) :=
  Column.all.filterMap fun column => (column.value? record).map fun value => (column, value)

theorem mem_entries_iff {record : Record} {column : Column} {value : Value} :
    (column, value) ∈ entries record ↔ column.value? record = some value := by
  simp [entries, Column.mem_all]

theorem lookup_entries (record : Record) (column : Column) :
    (entries record).lookup column = column.value? record := by
  obtain ⟨_, _, _, _, _, priority, deliverAt⟩ := record
  cases column <;> cases priority <;> cases deliverAt <;> rfl

theorem columns_eq (record : Record) : columns record = (entries record).map fun entry => entry.1.name := by
  obtain ⟨_, _, _, _, _, priority, deliverAt⟩ := record
  cases priority <;> cases deliverAt <;> rfl

theorem values_eq (record : Record) : values record = (entries record).map Prod.snd := by
  obtain ⟨_, _, _, _, _, priority, deliverAt⟩ := record
  cases priority <;> cases deliverAt <;> rfl

theorem columns_nodup (record : Record) : (columns record).Nodup := by
  have apart : Column.all.Nodup := by decide
  rw [columns_eq, entries, List.map_filterMap]
  refine apart.filterMap fun column other shown first second => ?_
  simp only [Option.mem_def, Option.map_map, Option.map_eq_some_iff] at first second
  obtain ⟨_, _, named⟩ := first
  obtain ⟨_, _, namedToo⟩ := second
  exact Column.name_injective (named.trans namedToo.symm)

theorem mem_columns_iff {record : Record} {text : String} :
    text ∈ columns record ↔ ∃ column : Column, column.name = text ∧ (column.value? record).isSome := by
  rw [columns_eq, List.mem_map]
  constructor
  · rintro ⟨⟨column, value⟩, member, named⟩
    exact ⟨column, named, Option.isSome_of_eq_some (mem_entries_iff.mp member)⟩
  · rintro ⟨column, named, set⟩
    obtain ⟨value, stands⟩ := Option.isSome_iff_exists.mp set
    exact ⟨(column, value), mem_entries_iff.mpr stands, named⟩

theorem name_mem_columns_iff {record : Record} {column : Column} :
    column.name ∈ columns record ↔ (column.value? record).isSome := by
  rw [mem_columns_iff]
  constructor
  · rintro ⟨other, same, set⟩
    rwa [Column.name_injective same] at set
  · exact fun set => ⟨column, rfl, set⟩

theorem isItem_of_mem_columns {record : Record} {text : String} (member : text ∈ columns record) :
    IsItem text := by
  obtain ⟨column, rfl, _⟩ := mem_columns_iff.mp member
  exact column.isItem_name

theorem columns_ne_nil (record : Record) : columns record ≠ [] := by
  simp [columns]

theorem getElem?_values {record : Record} {column : Column} {k : Nat}
    (here : (columns record)[k]? = some column.name) :
    (values record)[k]? = column.value? record := by
  rw [columns_eq, List.getElem?_map, Option.map_eq_some_iff] at here
  obtain ⟨⟨own, value⟩, entry, same⟩ := here
  obtain rfl : own = column := Column.name_injective same
  have stands := mem_entries_iff.mp (List.mem_of_getElem? entry)
  rw [values_eq, List.getElem?_map, entry, stands]
  rfl

theorem length_values (record : Record) : (values record).length = (columns record).length := by
  rw [columns_eq, values_eq, List.length_map, List.length_map]

end Sql

end DeliveryCheck
