import DeliveryCheck.Config.Basic
import DeliveryCheck.Record.Basic

namespace DeliveryCheck.Sql

inductive Value where
  | uuid (id : Uuid)
  | text (text : String)
  | timestamp (instant : Timestamp)
deriving DecidableEq

structure Statement where
  text : String
  values : List Value
deriving DecidableEq

def columns (record : Record) : List String :=
  ["id", "user_id", "title", "message", "notification_type"] ++
    (if record.priority.isSome then ["priority"] else []) ++
    (if record.deliverAt.isSome then ["deliver_at"] else [])

def values (record : Record) : List Value :=
  [.uuid record.id, .uuid record.recipient, .text record.title, .text record.body,
    .text record.category] ++
    record.priority.toList.map .text ++ record.deliverAt.toList.map .timestamp

def placeholders (count : Nat) : List String :=
  (List.range count).map fun k => "$" ++ Decimal.natural (k + 1)

def insertText (table : String) (record : Record) : String :=
  "INSERT INTO " ++ table ++ " (" ++ ", ".intercalate (columns record) ++ ") VALUES (" ++
    ", ".intercalate (placeholders (columns record).length) ++ ")"

def statusText (table : String) : String :=
  "SELECT is_processed, COALESCE(error_count, 0) AS error_count, last_error FROM " ++ table ++
    " WHERE id = $1"

def insertion (table : String) (record : Record) : Statement :=
  ⟨insertText table record, values record⟩

def statusQuery (table : String) (id : Uuid) : Statement := ⟨statusText table, [.uuid id]⟩

end DeliveryCheck.Sql
