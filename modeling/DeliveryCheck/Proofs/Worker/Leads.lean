import DeliveryCheck.Procedure.Task
import DeliveryCheck.Proofs.Run.World
import DeliveryCheck.Proofs.Worker.Entries

namespace DeliveryCheck.Worker

variable {α : Type}

/-- Whether a procedure keeps to the record of one identity and comes to an end that meets a goal. It is
told the entry of the record once that is stored. -/
def Leads (script : Script) (wall : Instant → Timestamp) (who : Identity) (goal : α → Prop) :
    Procedure α → Instant → Option Entry → Prop
  | .done result, _, _ => goal result
  | .enter _ next, now, entry => Leads script wall who goal next now entry
  | .pause length next, now, entry =>
    Leads script wall who goal (next (now.after length)) (now.after length) entry
  | .insert make next, now, none =>
    (make who).id = who.id ∧ ∃ entry,
      State.entryFor? script (make who) (now.after .zero) (wall (now.after .zero)) = some entry ∧
      Leads script wall who goal (next (now.after .zero) (.ok who.id)) (now.after .zero) (some entry)
  | .read id next, now, some entry =>
    id = who.id ∧ ∃ status later,
      entry.observe (now.after script.readLatency) = some (status, later) ∧
      Leads script wall who goal (next (now.after script.readLatency) (.ok status))
        (now.after script.readLatency) (some later)
  | .insert .., _, some _ | .read .., _, none => False

/-- A task that leads to a goal. Until it inserts its record it may get any of the identities with a number
from `first` to `top`; from then on it owns the one with a certain number. -/
inductive Keeps (script : Script) (wall : Instant → Timestamp) (identity : Nat → Identity)
    (first top : Nat) (state : State) (goal : α → Prop) : Option Nat → Task State α → Prop where
  | finished {own result} (reached : goal result) :
    Keeps script wall identity first top state goal own (.finished result)
  | unborn {wake procedure}
    (leads : ∀ number, first ≤ number → number < top →
      Leads script wall (identity number) goal procedure wake none) :
    Keeps script wall identity first top state goal none (.ready wake procedure)
  | stored {own wake procedure entry} (found : state.find? (identity own).id = some entry)
    (leads : Leads script wall (identity own) goal procedure wake (some entry)) :
    Keeps script wall identity first top state goal (some own) (.ready wake procedure)
  | inserting {own began wake number record next entry} (mine : record.id = (identity own).id)
    (missing : state.find? (identity own).id = none)
    (made : State.entryFor? script record wake (wall wake) = some entry)
    (leads : Leads script wall (identity own) goal (next wake (.ok (identity own).id)) wake
      (some entry)) :
    Keeps script wall identity first top state goal (some own)
      (.inserting began wake number record
        ⟨.zero, fun now state => state.insert script record now (wall now)⟩ next)
  | reading {own began wake next entry status later}
    (found : state.find? (identity own).id = some entry)
    (observed : entry.observe wake = some (status, later))
    (leads : Leads script wall (identity own) goal (next wake (.ok status)) wake (some later)) :
    Keeps script wall identity first top state goal (some own)
      (.reading began wake (identity own).id
        ⟨script.readLatency, fun now state => state.settleRead script (identity own).id now⟩ next)

def Distinct (identity : Nat → Identity) (first top : Nat) : Prop :=
  ∀ m n, first ≤ m → m < top → first ≤ n → n < top → (identity m).id = (identity n).id → m = n

/-- A store that answers and can take the records of `count` more identities with numbers below `top`. -/
structure Vacant (identity : Nat → Identity) (first top : Nat) (world : World State) (count : Nat) :
    Prop where
  reachable : world.state.isReachable
  sound : world.state.poisoned = false
  begun : first ≤ world.issued
  room : world.issued + count ≤ top
  unknown : ∀ number, world.issued ≤ number → number < top →
    world.state.find? (identity number).id = none

section

variable {script : Script} {wall : Instant → Timestamp} {identity : Nat → Identity} {first top : Nat}
  {state after : State} {world later : World State} {goal : α → Prop} {own owned : Option Nat}
  {task : Task State α} {count : Nat}

theorem Keeps.frame (keeps : Keeps script wall identity first top state goal own task)
    (same : ∀ number, own = some number →
      after.find? (identity number).id = state.find? (identity number).id) :
    Keeps script wall identity first top after goal own task := by
  cases keeps with
  | finished reached => exact .finished reached
  | unborn leads => exact .unborn leads
  | stored found leads => exact .stored ((same _ rfl).trans found) leads
  | inserting mine missing made leads =>
    exact .inserting mine ((same _ rfl).trans missing) made leads
  | reading found observed leads => exact .reading ((same _ rfl).trans found) observed leads

theorem Keeps.reached (keeps : Keeps script wall identity first top state goal own task) :
    ∀ result, task.result? = some result → goal result := by
  intro result ended
  cases keeps with
  | finished reached =>
    cases ended
    exact reached
  | unborn | stored | inserting | reading => cases ended

theorem Vacant.fewer (vacant : Vacant identity first top world count) {spare : Nat}
    (fewer : spare ≤ count) : Vacant identity first top world spare :=
  { vacant with room := Nat.le_trans (Nat.add_le_add_left fewer _) vacant.room }

/-- What a step of a task does to the store: it changes at most the entry that the task owns
afterwards, and the task owns what it owned before or the next identity. -/
structure Advances (identity : Nat → Identity) (world : World State) (own : Option Nat)
    (later : World State) (owned : Option Nat) : Prop where
  reachable : later.state.isReachable
  sound : later.state.poisoned = false
  elsewhere : ∀ id, (∀ number, owned = some number → (identity number).id ≠ id) →
    later.state.find? id = world.state.find? id
  owns : owned = own ∧ later.issued = world.issued ∨
    own = none ∧ owned = some world.issued ∧ later.issued = world.issued + 1

theorem Advances.issued_le (advances : Advances identity world own later owned) :
    world.issued ≤ later.issued := by
  rcases advances.owns with ⟨_, same⟩ | ⟨_, _, next⟩ <;> omega

theorem Advances.owned_lt (advances : Advances identity world own later owned)
    (begun : first ≤ world.issued)
    (old : ∀ number, own = some number → first ≤ number ∧ number < world.issued) :
    ∀ number, owned = some number → first ≤ number ∧ number < later.issued := by
  intro number owns
  rcases advances.owns with ⟨rfl, same⟩ | ⟨_, rfl, next⟩
  · rw [same]
    exact old number owns
  · cases owns
    rw [next]
    exact ⟨begun, Nat.lt_succ_self _⟩

theorem Advances.apart (advances : Advances identity world own later owned) {other : Nat}
    (old : other < world.issued) (apart : ∀ number, own = some number → number ≠ other) :
    ∀ number, owned = some number → number ≠ other := by
  intro number owns
  rcases advances.owns with ⟨rfl, _⟩ | ⟨_, rfl, _⟩
  · exact apart number owns
  · cases owns
    exact Nat.ne_of_gt old

theorem Advances.find?_eq (advances : Advances identity world own later owned)
    (distinct : Distinct identity first top)
    (within : ∀ number, owned = some number → first ≤ number ∧ number < top) {other : Nat}
    (begun : first ≤ other) (below : other < top)
    (apart : ∀ number, owned = some number → number ≠ other) :
    later.state.find? (identity other).id = world.state.find? (identity other).id := by
  refine advances.elsewhere _ fun number owns same => apart number owns ?_
  obtain ⟨begunToo, belowToo⟩ := within number owns
  exact distinct number other begunToo belowToo begun below same

theorem Advances.vacant (advances : Advances identity world own later owned)
    (distinct : Distinct identity first top)
    (old : ∀ number, own = some number → first ≤ number ∧ number < world.issued)
    (vacant : Vacant identity first top world ((if own.isNone then 1 else 0) + count)) :
    Vacant identity first top later ((if owned.isNone then 1 else 0) + count) := by
  have room : later.issued + ((if owned.isNone then 1 else 0) + count) ≤ top := by
    have room := vacant.room
    rcases advances.owns with ⟨rfl, same⟩ | ⟨rfl, rfl, next⟩
    · rwa [same]
    · rw [next]
      simp only [Option.isNone_none, Option.isNone_some, if_true, Bool.false_eq_true, if_false] at room ⊢
      omega
  have owns := advances.owned_lt vacant.begun old
  have within : ∀ number, owned = some number → first ≤ number ∧ number < top := fun number mine =>
    (owns number mine).imp_right fun before =>
      Nat.lt_of_lt_of_le before (Nat.le_trans (Nat.le_add_right ..) room)
  refine ⟨advances.reachable, advances.sound, Nat.le_trans vacant.begun advances.issued_le, room, ?_⟩
  intro number unissued below
  have issued := Nat.le_trans advances.issued_le unissued
  rw [advances.find?_eq distinct within (Nat.le_trans vacant.begun issued) below fun mine owned =>
    Nat.ne_of_lt (Nat.lt_of_lt_of_le (owns mine owned).2 unissued)]
  exact vacant.unknown number issued below

theorem Vacant.advances (vacant : Vacant identity first top world count)
    (state : later.state = world.state) (issued : later.issued = world.issued) :
    Advances identity world own later own where
  reachable := state ▸ vacant.reachable
  sound := state ▸ vacant.sound
  elsewhere _ _ := by rw [state]
  owns := .inl ⟨rfl, issued⟩

theorem Vacant.number (vacant : Vacant identity first top world count) (room : 0 < count) :
    first ≤ world.issued ∧ world.issued < top :=
  ⟨vacant.begun, Nat.lt_of_lt_of_le (Nat.lt_add_of_pos_right room) vacant.room⟩

theorem begin_unborn {procedure : Procedure α}
    (leads : ∀ number, first ≤ number → number < top →
      Leads script wall (identity number) goal procedure world.now none)
    (vacant : Vacant identity first top world count) (room : 0 < count) :
    ∃ owned,
      Keeps script wall identity first top
        (Task.begin ⟨store script wall, identity, wall⟩ world procedure).2.state goal owned
        (Task.begin ⟨store script wall, identity, wall⟩ world procedure).1 ∧
      Advances identity world none
        (Task.begin ⟨store script wall, identity, wall⟩ world procedure).2 owned := by
  obtain ⟨begun, below⟩ := vacant.number room
  have next := leads world.issued begun below
  cases procedure with
  | done result => exact ⟨none, .finished next, vacant.advances rfl rfl⟩
  | enter mark rest => exact ⟨none, .unborn leads, vacant.advances rfl rfl⟩
  | pause length rest => exact ⟨none, .unborn leads, vacant.advances rfl rfl⟩
  | insert make rest =>
    obtain ⟨mine, entry, made, onward⟩ := next
    refine ⟨some world.issued,
      .inserting mine (vacant.unknown _ (Nat.le_refl _) below) made onward,
      vacant.reachable, vacant.sound, fun _ _ => rfl, .inr ⟨rfl, rfl, rfl⟩⟩
  | read id rest => exact next.elim

theorem begin_stored {procedure : Procedure α} {number : Nat} {entry : Entry}
    (found : world.state.find? (identity number).id = some entry)
    (leads : Leads script wall (identity number) goal procedure world.now (some entry))
    (vacant : Vacant identity first top world count) :
    Keeps script wall identity first top
        (Task.begin ⟨store script wall, identity, wall⟩ world procedure).2.state goal (some number)
        (Task.begin ⟨store script wall, identity, wall⟩ world procedure).1 ∧
      Advances identity world (some number)
        (Task.begin ⟨store script wall, identity, wall⟩ world procedure).2 (some number) := by
  cases procedure with
  | done result => exact ⟨.finished leads, vacant.advances rfl rfl⟩
  | enter mark rest => exact ⟨.stored found leads, vacant.advances rfl rfl⟩
  | pause length rest => exact ⟨.stored found leads, vacant.advances rfl rfl⟩
  | insert make rest => exact leads.elim
  | read id rest =>
    obtain ⟨rfl, status, later, observed, onward⟩ := leads
    have accepted : (store script wall).read (identity number).id world.now world.state =
        (⟨script.readLatency, fun now state => state.settleRead script (identity number).id now⟩,
          world.state) := if_pos vacant.reachable
    simp only [Task.begin, World.beginRead, accepted]
    exact ⟨.reading found observed onward, vacant.advances rfl rfl⟩

theorem Keeps.step (unlimited : script.readBudget = none)
    (keeps : Keeps script wall identity first top world.state goal own task)
    (wakes : task.wake? = some world.now) (vacant : Vacant identity first top world count)
    (room : own = none → 0 < count) :
    ∃ owned,
      Keeps script wall identity first top
        (task.step ⟨store script wall, identity, wall⟩ world).2.state goal owned
        (task.step ⟨store script wall, identity, wall⟩ world).1 ∧
      Advances identity world own (task.step ⟨store script wall, identity, wall⟩ world).2 owned := by
  cases keeps with
  | finished reached => cases wakes
  | unborn leads =>
    cases wakes
    exact begin_unborn leads vacant (room rfl)
  | stored found leads =>
    cases wakes
    exact ⟨_, begin_stored found leads vacant⟩
  | @inserting number began wake issued record next entry mine missing made leads =>
    cases wakes
    have fresh : world.state.find? record.id = none := mine ▸ missing
    have inserted : world.state.insert script record world.now (wall world.now) =
        (.ok record.id, { world.state with entries := entry :: world.state.entries }) :=
      State.insert_fresh vacant.reachable vacant.sound fresh made
    have here : entry.record.id = (identity number).id :=
      (congrArg Record.id (State.record_entryFor? made)).trans mine
    simp only [Task.step, World.settle, inserted]
    refine ⟨some number, .stored ((State.find?_inserted rfl _).trans (if_pos here)) (mine ▸ leads),
      vacant.reachable, vacant.sound, fun id other => ?_, .inl ⟨rfl, rfl⟩⟩
    have elsewhere : entry.record.id ≠ id := fun same => other number rfl (here.symm.trans same)
    exact (State.find?_inserted rfl id).trans (if_neg elsewhere)
  | @reading number began wake next entry status later found observed leads =>
    cases wakes
    let answered : State :=
      { world.state with
        reads := world.state.reads + 1
        entries := State.replace world.state.entries later }
    have settled : world.state.settleRead script (identity number).id world.now =
        (.ok status, answered) :=
      State.settleRead_observed unlimited vacant.sound found observed
    have here : later.record.id = (identity number).id :=
      (congrArg Record.id (Entry.record_observe observed)).trans (State.id_of_find? found)
    have changed : ∀ id, answered.find? id =
        if later.record.id = id then some later else world.state.find? id :=
      State.find?_observed rfl (here ▸ found)
    simp only [Task.step, World.settle, settled]
    exact ⟨some number, .stored ((changed _).trans (if_pos here)) leads, vacant.reachable,
      vacant.sound, fun id other => (changed id).trans (if_neg (here ▸ other number rfl)),
      .inl ⟨rfl, rfl⟩⟩

end

end DeliveryCheck.Worker
