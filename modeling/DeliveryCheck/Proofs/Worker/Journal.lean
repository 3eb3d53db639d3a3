import Mathlib.Control.Monad.Basic
import Mathlib.Data.List.Induction
import DeliveryCheck.Proofs.Worker.Entries
/-!
A scripted store in use. Its users insert and read records, switch it off and on and close it, in any order
and at any time; reads take their time and may overlap with everything else. What came of each call is
written into a journal, and the journal accounts for the state of the store.
-/

namespace DeliveryCheck.Worker

inductive Request where
  | insert (record : Record)
  | read (id : Uuid)
  /-- Has one of the reads under way answered, if its time is up. -/
  | settle (place : Nat)
  | giveUp (place : Nat)
  | wait (length : Duration)
  | setUnavailable (value : Bool)
  | close

inductive Deed where
  | inserted (record : Record) (answer : Except Error Uuid)
  /-- A read that was answered; whether the store was available is a matter of when it began. -/
  | read (available : Bool) (id : Uuid) (answer : Except Error (Option Status))
  | switched (unavailable : Bool)
  | closed
deriving DecidableEq

namespace Deed

def stored? : Deed → Option Record
  | inserted record (.ok _) => some record
  | _ => none

def served? : Deed → Option (Except Error (Option Status))
  | read true _ answer => some answer
  | _ => none

def switched? : Deed → Option Bool
  | switched unavailable => some unavailable
  | _ => none

/-- The call needed an instant that cannot be written. -/
def crashed : Deed → Bool
  | inserted _ (.error .instantOverflow) => true
  | read _ _ (.error .instantOverflow) => true
  | _ => false

theorem crashed_read_iff {available : Bool} {id : Uuid} {answer : Except Error (Option Status)} :
    (read available id answer).crashed = true ↔ answer = .error .instantOverflow := by
  unfold crashed
  split <;> simp_all

end Deed

namespace Journal

def stored (journal : List Deed) : List Record := journal.filterMap Deed.stored?

def served (journal : List Deed) : List (Except Error (Option Status)) :=
  journal.filterMap Deed.served?

def isSwitchedOff (journal : List Deed) : Bool :=
  (journal.filterMap Deed.switched?).getLast?.getD false

def isAvailable (journal : List Deed) : Bool :=
  !isSwitchedOff journal && !decide (Deed.closed ∈ journal)

def HasCrashed (journal : List Deed) : Prop := journal.any Deed.crashed = true

instance (journal : List Deed) : Decidable (HasCrashed journal) :=
  inferInstanceAs (Decidable (_ = true))

variable {journal : List Deed} {deed : Deed}

@[simp] theorem stored_concat : stored (journal ++ [deed]) = stored journal ++ deed.stored?.toList := by
  cases kept : deed.stored? <;> simp [stored, kept]

@[simp] theorem served_concat : served (journal ++ [deed]) = served journal ++ deed.served?.toList := by
  cases kept : deed.served? <;> simp [served, kept]

@[simp] theorem isSwitchedOff_concat :
    isSwitchedOff (journal ++ [deed]) = deed.switched?.getD (isSwitchedOff journal) := by
  cases kept : deed.switched? <;> simp [isSwitchedOff, kept]

@[simp] theorem hasCrashed_concat :
    HasCrashed (journal ++ [deed]) ↔ HasCrashed journal ∨ deed.crashed = true := by
  simp [HasCrashed]

theorem HasCrashed.of_mem (member : deed ∈ journal) (crashed : deed.crashed = true) :
    HasCrashed journal := List.any_eq_true.mpr ⟨deed, member, crashed⟩

theorem isAvailable_of_closed (closed : .closed ∈ journal) :
    isAvailable journal = false := by
  simp [isAvailable, closed]

theorem HasCrashed.mono {longer : List Deed} (grown : journal <+: longer)
    (crashed : HasCrashed journal) : HasCrashed longer := by
  obtain ⟨deed, member, crashes⟩ := List.any_eq_true.mp crashed
  exact .of_mem (grown.subset member) crashes

theorem read_of_served? {answer : Except Error (Option Status)} (served : deed.served? = some answer) :
    ∃ id, deed = .read true id answer := by
  unfold Deed.served? at served
  split at served
  · cases served
    exact ⟨_, rfl⟩
  · cases served

theorem exists_of_served_eq {earlier later : List (Except Error (Option Status))}
    {answer : Except Error (Option Status)} (split : served journal = earlier ++ answer :: later) :
    ∃ before id after, journal = before ++ .read true id answer :: after ∧ served before = earlier := by
  obtain ⟨before, rest, rfl, rfl, others⟩ := List.filterMap_eq_append_iff.mp split
  obtain ⟨silent, deed, after, rfl, unserved, given, rfl⟩ := List.filterMap_eq_cons_iff.mp others
  obtain ⟨id, rfl⟩ := read_of_served? given
  refine ⟨before ++ silent, id, after, (List.append_assoc ..).symm, ?_⟩
  rw [served, List.filterMap_append, List.filterMap_eq_nil_iff.mpr unserved, List.append_nil]

theorem find?_stored_mono {longer : List Deed} {id : Uuid} {record : Record}
    (grown : journal <+: longer) (found : (stored journal).find? (·.id = id) = some record) :
    (stored longer).find? (·.id = id) = some record := by
  obtain ⟨more, same⟩ := grown.filterMap Deed.stored?
  rw [stored, ← same, List.find?_append, ← stored, found]
  rfl

end Journal

structure Waiting where
  available : Bool
  id : Uuid
  due : Instant
  call : Call State (Option Status)

structure Usage where
  now : Instant := 0
  state : State := {}
  waiting : List Waiting := []
  journal : List Deed := []

namespace Usage

def note (usage : Usage) (deed : Deed) (state : State) : Usage :=
  { usage with state := state, journal := usage.journal ++ [deed] }

def settle (usage : Usage) (read : Waiting) : Usage :=
  let (answer, state) := read.call.settle usage.now usage.state
  usage.note (.read read.available read.id answer) state

variable (script : Script) (wall : Instant → Timestamp)

/-- An insertion is over at once, and so is a read that takes no time. -/
def step (usage : Usage) : Request → Usage
  | .insert record =>
    let (call, accepted) := (store script wall).insert record usage.now usage.state
    let (answer, state) := call.settle usage.now accepted
    usage.note (.inserted record answer) state
  | .read id =>
    let (call, accepted) := (store script wall).read id usage.now usage.state
    let read : Waiting :=
      ⟨Journal.isAvailable usage.journal, id, usage.now.after call.takes, call⟩
    if call.takes = .zero then { usage with state := accepted }.settle read
    else { usage with state := accepted, waiting := usage.waiting ++ [read] }
  | .settle place =>
    match usage.waiting[place]? with
    | some read =>
      if read.due ≤ usage.now then
        { usage with waiting := usage.waiting.eraseIdx place }.settle read
      else usage
    | none => usage
  | .giveUp place => { usage with waiting := usage.waiting.eraseIdx place }
  | .wait length => { usage with now := usage.now.after length }
  | .setUnavailable value => usage.note (.switched value) (usage.state.setUnavailable value)
  | .close => usage.note .closed ((store script wall).close usage.state)

def run (requests : List Request) : Usage := requests.foldl (step script wall) {}

variable {usage : Usage}

theorem step_insert_refused (unreachable : usage.state.isReachable = false) (record : Record) :
    usage.step script wall (.insert record) =
      usage.note (.inserted record (.error State.refused)) usage.state := by
  simp [step, store, State.insert, unreachable, note]

theorem step_read_refused (unreachable : usage.state.isReachable = false) (id : Uuid) :
    usage.step script wall (.read id) =
      usage.note (.read (Journal.isAvailable usage.journal) id (.error State.refused)) usage.state := by
  simp [step, store, unreachable, settle, Call.refuse, note]

theorem step_read_accepted (reachable : usage.state.isReachable = true) (id : Uuid) :
    usage.step script wall (.read id) =
      let read : Waiting := ⟨Journal.isAvailable usage.journal, id,
        usage.now.after script.readLatency,
        script.readLatency, fun now state => state.settleRead script id now⟩
      if script.readLatency = .zero then usage.settle read
      else { usage with waiting := usage.waiting ++ [read] } := by
  simp [step, store, reachable]

theorem run_append (requests later : List Request) :
    run script wall (requests ++ later) = later.foldl (step script wall) (run script wall requests) :=
  List.foldl_append

theorem journal_step (usage : Usage) (request : Request) :
    usage.journal <+: (usage.step script wall request).journal := by
  have noted (deed : Deed) : usage.journal <+: usage.journal ++ [deed] := List.prefix_append ..
  cases request with
  | insert | setUnavailable | close => exact noted _
  | giveUp | wait => exact List.prefix_rfl
  | read =>
    cases reachable : usage.state.isReachable with
    | false =>
      rw [step_read_refused script wall reachable]
      exact noted _
    | true =>
      rw [step_read_accepted script wall reachable]
      dsimp only
      split
      · exact noted _
      · exact List.prefix_rfl
  | settle =>
    rw [step]
    split
    · split
      · exact noted _
      · exact List.prefix_rfl
    · exact List.prefix_rfl

theorem journal_run_append (requests later : List Request) :
    (run script wall requests).journal <+: (run script wall (requests ++ later)).journal := by
  induction later using List.reverseRecOn with
  | nil => simp
  | append_singleton later request ih =>
    rw [← List.append_assoc, run_append]
    exact ih.trans (journal_step script wall _ request)

theorem closed_of_mem {requests : List Request} (closes : .close ∈ requests) :
    Deed.closed ∈ (run script wall requests).journal := by
  obtain ⟨before, later, rfl⟩ := List.mem_iff_append.mp closes
  have noted : Deed.closed ∈ (run script wall (before ++ [.close])).journal := by
    rw [run_append]
    exact List.mem_append_right _ (List.mem_singleton_self _)
  rw [List.append_cons]
  exact (journal_run_append script wall (before ++ [.close]) later).subset noted

end Usage

end DeliveryCheck.Worker
