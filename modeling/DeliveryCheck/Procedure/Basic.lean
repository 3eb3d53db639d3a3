import DeliveryCheck.Record.Basic
import DeliveryCheck.Error
/-!
What a check does, one interaction at a time: it inserts, reads and pauses, and is told the instant at
which each of these ended together with the answer. A procedure is a well-founded tree, so every way of
carrying it out comes to an end.
-/

namespace DeliveryCheck

inductive Phase where
  | injected
  | earlyChecked
  | awaiting
  | resolved
deriving DecidableEq

/-- A phase that a scenario enters, and the time since it started. -/
structure Mark where
  scenario : String
  phase : Phase
  since : Duration
deriving DecidableEq

inductive Procedure (α : Type) where
  | done (result : α)
  | insert (record : Identity → Record) (next : Instant → Except Error Uuid → Procedure α)
  | read (id : Uuid) (next : Instant → Except Error (Option Status) → Procedure α)
  | pause (length : Duration) (next : Instant → Procedure α)
  | enter (mark : Mark) (next : Procedure α)

end DeliveryCheck
