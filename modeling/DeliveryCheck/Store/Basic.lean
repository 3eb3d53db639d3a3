import DeliveryCheck.Record.Basic
import DeliveryCheck.Error
/-!
What a run needs of the shared store: to insert a record, to read what the worker made of it, and to
be closed. A call is accepted at one instant and settled at a later one, and other calls may come in
between; how long it takes and what it answers is up to the store.
-/

namespace DeliveryCheck

/-- A call that the store has accepted: how long it takes, and what it answers and changes then. -/
structure Call (σ α : Type) where
  takes : Duration
  settle : Instant → σ → Except Error α × σ

namespace Call

def refuse {σ α : Type} (fault : Error) : Call σ α := ⟨.zero, fun _ state => (.error fault, state)⟩

end Call

structure Store (σ : Type) where
  insert : Record → Instant → σ → Call σ Uuid × σ
  read : Uuid → Instant → σ → Call σ (Option Status) × σ
  close : σ → σ

end DeliveryCheck
