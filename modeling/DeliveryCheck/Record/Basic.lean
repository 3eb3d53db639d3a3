import DeliveryCheck.Record.Uuid
import DeliveryCheck.Text.Decimal
import DeliveryCheck.Text.Quoted
import DeliveryCheck.Time.Timestamp

namespace DeliveryCheck

structure Record where
  id : Uuid
  recipient : Uuid
  title : String
  body : String
  category : String
  priority : Option String
  /-- Not to be delivered before; at once if absent. -/
  deliverAt : Option Timestamp
deriving DecidableEq

structure Identity where
  id : Uuid
  recipient : Uuid
deriving DecidableEq

def Uuid.everybody : Uuid := nil

namespace Record

def isBroadcast (record : Record) : Bool := record.recipient = Uuid.everybody

def immediate (who : Identity) (title body : String) : Record where
  id := who.id
  recipient := who.recipient
  title := title
  body := body
  category := "system"
  priority := none
  deliverAt := none

def scheduled (who : Identity) (title body : String) (due : Timestamp) : Record :=
  { immediate who title body with deliverAt := some due }

def broadcast (who : Identity) (title body : String) : Record :=
  { immediate who title body with recipient := Uuid.everybody }

end Record

structure Status where
  processed : Bool
  errorCount : Int
  lastError : Option String
deriving DecidableEq

namespace Status

def pending : Status := ⟨false, 0, none⟩

def boolText (value : Bool) : String := if value then "true" else "false"

def lastErrorText : Option String → String
  | none => ""
  | some reason => ", last_error=" ++ quoted reason

def text (status : Status) : String :=
  "is_processed=" ++ boolText status.processed ++ ", error_count=" ++
    Decimal.integer status.errorCount ++ lastErrorText status.lastError

end Status

end DeliveryCheck
