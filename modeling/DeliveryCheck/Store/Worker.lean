import DeliveryCheck.Store.Basic
/-!
A store kept in memory, with a worker that follows a script. What a read answers depends on the script
of the record, on when the record was inserted and is due, and on the earlier reads of that record.
-/

namespace DeliveryCheck.Worker

inductive Behavior where
  /-- Processes it some time after it is due. -/
  | honor (latency : Duration)
  /-- Processes it on insertion, whenever it is due. -/
  | eager
  | stalled
  /-- Never shows it to a read. -/
  | invisible
  | failing (reason : String)
  /-- Shows it processed to one read, some time after its insertion, and then takes that back. -/
  | flapping (latency : Duration)
deriving DecidableEq

structure Script where
  behavior : Behavior
  /-- For records meant for everybody, if they are treated differently. -/
  broadcast : Option Behavior := none
  /-- How many reads succeed before the connection breaks, if it does. -/
  readBudget : Option Nat := none
  readLatency : Duration := .zero
deriving DecidableEq

structure Entry where
  record : Record
  behavior : Behavior
  inserted : Instant
  due : Instant
  /-- Reads that came late enough to see the record processed. -/
  lateReads : Nat
deriving DecidableEq

structure State where
  /-- The latest insertion first. -/
  entries : List Entry := []
  reads : Nat := 0
  unavailable : Bool := false
  closed : Bool := false
  /-- Set once an instant could not be written; the entries are out of reach from then on. -/
  poisoned : Bool := false
deriving DecidableEq

namespace Script

def behaviorFor (script : Script) (record : Record) : Behavior :=
  if record.isBroadcast then script.broadcast.getD script.behavior else script.behavior

end Script

namespace Entry

def failedStatus (reason : String) : Status := ⟨false, 3, some reason⟩

def statusOf (processed : Bool) : Status := ⟨processed, 0, none⟩

/-- What a read at a given instant sees, and the entry after it; nothing if an instant that is needed
cannot be written. -/
def observe (entry : Entry) (now : Instant) : Option (Option Status × Entry) :=
  match entry.behavior with
  | .honor latency =>
    (entry.due.after? latency).map fun ready => (some (statusOf (ready ≤ now)), entry)
  | .eager => some (some (statusOf true), entry)
  | .stalled => some (some (statusOf false), entry)
  | .invisible => some (none, entry)
  | .failing reason => some (some (failedStatus reason), entry)
  | .flapping latency =>
    (entry.inserted.after? latency).map fun ready =>
      if ready ≤ now then
        (some (statusOf (entry.lateReads = 0)), { entry with lateReads := entry.lateReads + 1 })
      else (some (statusOf false), entry)

end Entry

namespace State

def size (state : State) : Nat := if state.poisoned then 0 else state.entries.length

def isReachable (state : State) : Bool := !state.unavailable && !state.closed

def find? (state : State) (id : Uuid) : Option Entry := state.entries.find? (·.record.id = id)

def record? (state : State) (id : Uuid) : Option Record :=
  if state.poisoned then none else (state.find? id).map (·.record)

def setUnavailable (state : State) (value : Bool) : State := { state with unavailable := value }

def close (state : State) : State := { state with closed := true }

def refused : Error := .storeUnavailable "connection refused"

def broken : Error := .storeUnavailable "server closed the connection"

def outOfReach : Error := .internal "memory store lock poisoned"

def duplicate (id : Uuid) : Error :=
  .storeUnavailable ("duplicate key value violates unique constraint (id=" ++ id.text ++ ")")

/-- When a record inserted now is due, the wall clock showing `wall`; nothing if that cannot be written. -/
def due? (record : Record) (now : Instant) (wall : Timestamp) : Option Instant :=
  match record.deliverAt with
  | some due => now.after? (due.timeLeft wall)
  | none => some now

def entryFor? (script : Script) (record : Record) (now : Instant) (wall : Timestamp) : Option Entry :=
  (due? record now wall).map fun due => ⟨record, script.behaviorFor record, now, due, 0⟩

def insert (state : State) (script : Script) (record : Record) (now : Instant) (wall : Timestamp) :
    Except Error Uuid × State :=
  if !state.isReachable then (.error refused, state)
  else if state.poisoned then (.error outOfReach, state)
  else if (state.find? record.id).isSome then (.error (duplicate record.id), state)
  else match entryFor? script record now wall with
    | some entry => (.ok record.id, { state with entries := entry :: state.entries })
    | none => (.error .instantOverflow, { state with poisoned := true })

def replace (entries : List Entry) (entry : Entry) : List Entry :=
  entries.map fun old => if old.record.id = entry.record.id then entry else old

def look (state : State) (id : Uuid) (now : Instant) : Except Error (Option Status) × State :=
  if state.poisoned then (.error outOfReach, state)
  else match state.find? id with
    | none => (.ok none, state)
    | some entry =>
      match entry.observe now with
      | some (status, entry) => (.ok status, { state with entries := replace state.entries entry })
      | none => (.error .instantOverflow, { state with poisoned := true })

/-- The end of a read: it is counted, and fails once the connection is due to break. -/
def settleRead (state : State) (script : Script) (id : Uuid) (now : Instant) :
    Except Error (Option Status) × State :=
  let counted := { state with reads := state.reads + 1 }
  if script.readBudget.any (· ≤ state.reads) then (.error broken, counted) else counted.look id now

end State

/-- The store that a script describes, the wall clock showing `wall t` at the instant `t`. -/
def store (script : Script) (wall : Instant → Timestamp) : Store State where
  insert record _ state :=
    (⟨.zero, fun now state => state.insert script record now (wall now)⟩, state)
  read id _ state :=
    if state.isReachable then
      (⟨script.readLatency, fun now state => state.settleRead script id now⟩, state)
    else (Call.refuse State.refused, state)
  close := State.close

end DeliveryCheck.Worker
