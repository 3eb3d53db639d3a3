import DeliveryCheck.Procedure.Basic
import DeliveryCheck.Store.Basic
import DeliveryCheck.Report.Result

namespace DeliveryCheck

inductive Event where
  | inserted (began ended : Instant) (number : Nat) (record : Record) (answer : Except Error Uuid)
  | read (began ended : Instant) (id : Uuid) (answer : Except Error (Option Status))
  | entered (mark : Mark)
  | reported (instant : Instant) (result : ScenarioResult)
  | printed (text : String)
  | closed (instant : Instant)

structure Setting (σ : Type) where
  store : Store σ
  /-- The identity of the record inserted after that many others. -/
  identity : Nat → Identity
  wall : Instant → Timestamp

structure World (σ : Type) where
  now : Instant
  state : σ
  issued : Nat
  history : List Event

namespace World

variable {σ : Type} (world : World σ)

def note (event : Event) : World σ := { world with history := event :: world.history }

def moveTo (now : Instant) : World σ := { world with now := now }

def withState (state : σ) : World σ := { world with state := state }

def print (lines : List String) : World σ :=
  lines.foldl (fun world line => world.note (.printed line)) world

def report (announce : ScenarioResult → List String) (result : ScenarioResult) : World σ :=
  (world.note (.reported world.now result)).print (announce result)

def printed : List String :=
  world.history.reverse.filterMap fun
    | .printed text => some text
    | _ => none

def reported : List ScenarioResult :=
  world.history.reverse.filterMap fun
    | .reported _ result => some result
    | _ => none

end World

def World.cut {σ : Type} (world : World σ) (limit : Option Instant) : World σ :=
  world.moveTo (limit.getD world.now)

def isCut (limit : Option Instant) (wake : Instant) : Bool := limit.any (· < wake)

end DeliveryCheck
