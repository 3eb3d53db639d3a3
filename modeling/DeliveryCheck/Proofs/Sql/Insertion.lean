import DeliveryCheck.Proofs.Sql.Column
import DeliveryCheck.Proofs.Sql.Statement
import DeliveryCheck.Sql.Store

namespace DeliveryCheck

namespace Sql

def numberOf? (placeholder : String) : Option Nat :=
  match placeholder.toList with
  | '$' :: digits =>
    if digits ≠ [] ∧ digits.all Char.isDigit then some (Decimal.ofDigits digits) else none
  | _ => none

theorem numberOf?_natural (n : Nat) : numberOf? ("$" ++ Decimal.natural n) = some n := by
  have split : ("$" ++ Decimal.natural n).toList = '$' :: Decimal.digits n := by
    simp [Decimal.natural]
  have digits : (Decimal.digits n).all Char.isDigit :=
    List.all_eq_true.mpr fun _ => Decimal.isDigit_of_mem_digits
  rw [numberOf?, split]
  simp only [Decimal.digits_ne_nil n, digits, ne_eq, not_false_eq_true, and_self, if_true,
    Decimal.ofDigits_digits]

theorem mapM_placeholders (count : Nat) :
    (placeholders count).mapM numberOf? = some (List.range' 1 count) := by
  have numbered : (numberOf? ∘ fun k => "$" ++ Decimal.natural (k + 1)) = fun k => pure (1 + k) := by
    funext k
    rw [Function.comp_apply, numberOf?_natural, Nat.add_comm]
    rfl
  rw [placeholders, List.mapM_map, numbered, List.mapM_pure, List.range'_eq_map_range]
  rfl

theorem isItem_of_mem_placeholders {count : Nat} {text : String} (member : text ∈ placeholders count) :
    IsItem text := by
  rw [placeholders, List.mem_map] at member
  obtain ⟨k, _, rfl⟩ := member
  have sign : endsItem '$' = false := by decide
  have digits : ∀ c ∈ Decimal.digits (k + 1), endsItem c = false :=
    Decimal.positional.forall_digits (by decide) (k + 1)
  simpa [IsItem, Decimal.natural, sign] using digits

/-- What the text of an insertion says: the table, the columns, and the numbers of their placeholders. -/
structure Insertion where
  table : String
  columns : List String
  numbers : List Nat
deriving DecidableEq

def Insertion.ofText? (text : String) : Option Insertion := do
  let table ← wordBehind? insertLead text
  let (columns, behind) ← listBehind? (insertLead ++ table ++ " (") text.toList
  let (placeholders, []) ← listBehind? " VALUES (" behind | none
  let numbers ← placeholders.mapM numberOf?
  return ⟨table, columns, numbers⟩

theorem toList_insertText (name : String) (record : Record) :
    (insertText name record).toList = (insertLead ++ name ++ " (").toList ++
      ((", ".intercalate (columns record)).toList ++ ')' :: (" VALUES (".toList ++
        ((", ".intercalate (placeholders (columns record).length)).toList ++ [')']))) := by
  have verb : ") VALUES (".toList = ')' :: " VALUES (".toList := rfl
  have closing : ")".toList = [')'] := rfl
  change (insertLead ++ name ++ " (" ++ ", ".intercalate (columns record) ++ ") VALUES (" ++
    ", ".intercalate (placeholders (columns record).length) ++ ")").toList = _
  simp only [String.toList_append, List.append_assoc, List.cons_append, verb, closing]

theorem ofText?_insertText {name : String} (dotted : TableName.Dotted name.toList) (record : Record) :
    Insertion.ofText? (insertText name record) =
      some ⟨name, columns record, List.range' 1 (columns record).length⟩ := by
  have someColumn := columns_ne_nil record
  have somePlaceholder : placeholders (columns record).length ≠ [] := by
    simpa [placeholders] using someColumn
  rw [Insertion.ofText?, wordBehind?_insertText dotted, toList_insertText]
  simp only [Option.bind_eq_bind, Option.bind_some,
    listBehind?_append someColumn fun _ => isItem_of_mem_columns,
    listBehind?_append somePlaceholder fun _ => isItem_of_mem_placeholders, mapM_placeholders]
  rfl

namespace Value

def uuid? : Value → Option Uuid
  | uuid id => some id
  | _ => none

def text? : Value → Option String
  | text own => some own
  | _ => none

def timestamp? : Value → Option Timestamp
  | timestamp instant => some instant
  | _ => none

end Value

namespace Statement

/-- The value bound to a numbered placeholder, the first one being number one. -/
def bound? (statement : Statement) : Nat → Option Value
  | 0 => none
  | k + 1 => statement.values[k]?

def valueIn? (statement : Statement) (column : Column) : Option Value := do
  let said ← Insertion.ofText? statement.text
  let number ← (said.columns.zip said.numbers).lookup column.name
  statement.bound? number

def record? (statement : Statement) : Option Record := do
  let id ← (statement.valueIn? .id).bind Value.uuid?
  let recipient ← (statement.valueIn? .userId).bind Value.uuid?
  let title ← (statement.valueIn? .title).bind Value.text?
  let body ← (statement.valueIn? .message).bind Value.text?
  let category ← (statement.valueIn? .notificationType).bind Value.text?
  let priority := (statement.valueIn? .priority).bind Value.text?
  let deliverAt := (statement.valueIn? .deliverAt).bind Value.timestamp?
  return { id, recipient, title, body, category, priority, deliverAt }

theorem lookup_numbered (entries : List (Column × Value)) (column : Column) (before : List Value)
    (text : String) :
    (((entries.map fun entry => entry.1.name).zip
        (List.range' (before.length + 1) entries.length)).lookup column.name).bind
      (bound? ⟨text, before ++ entries.map Prod.snd⟩) = entries.lookup column := by
  -- The numbers go on behind the values that have been passed, however many they are.
  induction entries generalizing before with
  | nil => rfl
  | cons entry others ih =>
    obtain ⟨own, value⟩ := entry
    by_cases same : column = own
    · subst same
      simp [List.range'_succ, bound?]
    · have apart : (column == own) = false := beq_false_of_ne same
      have namedApart : (column.name == own.name) = false :=
        beq_false_of_ne fun names => same (Column.name_injective names)
      have later := ih (before ++ [value])
      rw [List.length_append, List.append_assoc] at later
      simpa [List.range'_succ, List.lookup_cons, apart, namedApart] using later

theorem valueIn?_insertion {name : String} (dotted : TableName.Dotted name.toList) (record : Record)
    (column : Column) : (insertion name record).valueIn? column = column.value? record := by
  have found := lookup_numbered (entries record) column [] (insertText name record)
  have many : (columns record).length = (entries record).length := by
    rw [columns_eq, List.length_map]
  rw [lookup_entries, List.nil_append, ← values_eq, ← columns_eq, List.length_nil, Nat.zero_add,
    ← many] at found
  rw [valueIn?, insertion, ofText?_insertText dotted]
  exact found

theorem record?_insertion {name : String} (dotted : TableName.Dotted name.toList) (record : Record) :
    (insertion name record).record? = some record := by
  have priority : (record.priority.map Value.text).bind Value.text? = record.priority := by
    cases record.priority <;> rfl
  have deliverAt : (record.deliverAt.map Value.timestamp).bind Value.timestamp? = record.deliverAt := by
    cases record.deliverAt <;> rfl
  simp only [record?, valueIn?_insertion dotted record, Column.value?, priority, deliverAt,
    Option.bind_eq_bind, Option.bind_some, Value.uuid?, Value.text?]
  rfl

end Statement

/-- What it means that an insertion into a table carries a record. -/
structure Carries (table : String) (record : Record) : Prop where
  tells : Insertion.ofText? (insertion table record).text =
    some ⟨table, columns record, List.range' 1 (columns record).length⟩
  distinct : (columns record).Nodup
  named : ∀ text ∈ columns record, ∃ column : Column, column.name = text
  listed : ∀ column : Column, column.name ∈ columns record ↔ (column.value? record).isSome
  bound : (insertion table record).values.length = (columns record).length
  aligned : ∀ (k : Nat) (column : Column), (columns record)[k]? = some column.name →
    (insertion table record).values[k]? = column.value? record
  readBack : (insertion table record).record? = some record

theorem carries_of_dotted {table : String} (dotted : TableName.Dotted table.toList) (record : Record) :
    Carries table record where
  tells := ofText?_insertText dotted record
  distinct := columns_nodup record
  named := by
    intro text member
    obtain ⟨column, same, _⟩ := mem_columns_iff.mp member
    exact ⟨column, same⟩
  listed := fun _ => name_mem_columns_iff
  bound := length_values record
  aligned := fun _ _ => getElem?_values
  readBack := Statement.record?_insertion dotted record

theorem Carries.unique {table other : String} {record another : Record} (carries : Carries table record)
    (carriesToo : Carries other another) (same : insertion other another = insertion table record) :
    other = table ∧ another = record := by
  have tells := carriesToo.tells
  have readBack := carriesToo.readBack
  rw [same, carries.tells] at tells
  rw [same, carries.readBack] at readBack
  have tables := congrArg Insertion.table (Option.some.inj tells)
  exact ⟨tables.symm, (Option.some.inj readBack).symm⟩

/-- What a server makes of an insertion is passed on as the answer of the store. -/
structure PassesOn {σ : Type} (table : String) (server : Server σ) (record : Record) (state : σ)
    (answered : Call σ Uuid × σ) : Prop where
  takes : answered.1.takes = (server.execute (insertion table record) state).1.1
  state_eq : answered.2 = (server.execute (insertion table record) state).2
  accepted : ∀ rows, (server.execute (insertion table record) state).1.2 = .ok rows →
    ∀ ended later, answered.1.settle ended later = (.ok record.id, later)
  refused : ∀ fault, (server.execute (insertion table record) state).1.2 = .error fault →
    ∀ ended later, answered.1.settle ended later = (.error fault.toError, later)

theorem insert_passesOn {σ : Type} (table : String) (server : Server σ) (record : Record)
    (now : Instant) (state : σ) :
    PassesOn table server record state ((store table server).insert record now state) where
  takes := rfl
  state_eq := rfl
  accepted rows answer _ _ := by
    simp only [store, Server.call]
    rw [answer]
  refused fault answer _ _ := by
    simp only [store, Server.call]
    rw [answer]

/-- For an accepted table, the statement that a store hands to its server carries the record, and no other
record or table gives the same text with the same values. -/
theorem insertion_carries_record {table : String} (accepted : TableName.check table = .ok ())
    (record : Record) :
    (∀ {σ : Type} (server : Server σ) (now : Instant) (state : σ),
        (store table server).insert record now state =
          server.call (insertion table record) (fun _ => record.id) state ∧
        PassesOn table server record state ((store table server).insert record now state)) ∧
      Carries table record ∧
      ∀ (other : String) (another : Record), TableName.check other = .ok () →
        insertion other another = insertion table record → other = table ∧ another = record := by
  have carries := carries_of_dotted (TableName.check_eq_ok_iff.mp accepted) record
  refine ⟨fun server now state => ⟨rfl, insert_passesOn table server record now state⟩, carries, fun other another acceptedToo same => ?_⟩
  have carriesToo := carries_of_dotted (TableName.check_eq_ok_iff.mp acceptedToo) another
  exact carries.unique carriesToo same

def fullRecord : Record :=
  { Record.scheduled ⟨.ofNat 1, .ofNat 2⟩ "Title" "Body" ⟨0⟩ with priority := some "high" }

theorem insertion_carries_record_every_column :
    TableName.check "activity.notifications" = .ok () ∧ TableName.check "notifications" = .ok () ∧
      (columns fullRecord).length = Column.all.length ∧ Carries "activity.notifications" fullRecord ∧
      insertion "notifications" fullRecord ≠ insertion "activity.notifications" fullRecord := by
  have accepted : TableName.check "activity.notifications" = .ok () := by decide
  have acceptedToo : TableName.check "notifications" = .ok () := by decide
  obtain ⟨_, carries, apart⟩ := insertion_carries_record accepted fullRecord
  refine ⟨accepted, acceptedToo, rfl, carries, fun same => ?_⟩
  have tables := (apart "notifications" fullRecord acceptedToo same).1
  exact absurd tables (by decide)

end Sql

end DeliveryCheck
