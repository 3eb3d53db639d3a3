import DeliveryCheck.Config.Basic
import DeliveryCheck.Sql.Fault
import DeliveryCheck.Sql.Statement
import DeliveryCheck.Store.Basic

namespace DeliveryCheck.Sql

/-- A server as it answers statements: the time it takes, and the status rows it finds. -/
structure Server (σ : Type) where
  execute : Statement → σ → (Duration × Except Fault (List Status)) × σ
  close : σ → σ

namespace Server

variable {σ : Type}

def failing (fault : Fault) : Server σ := ⟨fun _ state => ((.zero, .error fault), state), id⟩

def call {α : Type} (server : Server σ) (statement : Statement) (result : List Status → α)
    (state : σ) : Call σ α × σ :=
  let ((takes, answer), later) := server.execute statement state
  let settled : Except Error α :=
    match answer with
    | .ok rows => .ok (result rows)
    | .error fault => .error fault.toError
  (⟨takes, fun _ state => (settled, state)⟩, later)

end Server

def store {σ : Type} (table : String) (server : Server σ) : Store σ where
  insert record _ state := server.call (insertion table record) (fun _ => record.id) state
  read id _ state := server.call (statusQuery table id) List.head? state
  close := server.close

universe u

structure Database where
  State : Type
  server : Server State
  initial : State
  identity : Nat → Identity
  wall : Instant → Timestamp

def acquire {α : Type u} (config : DatabaseConfig) (dialled : Except Fault α) : Except Fault α :=
  if config.maxConnections = 0 ∨ config.acquireTimeoutSecs = 0 then .error .poolTimedOut
  else dialled

end DeliveryCheck.Sql
