import Mathlib.Data.Finset.Card
import DeliveryCheck.Proofs.Worker.Accounts

namespace DeliveryCheck.Worker

namespace Waiting

def IsServed (script : Script) (read : Waiting) : Prop :=
  read.available = true ∧
    read.call.settle = fun now (state : State) => state.settleRead script read.id now

end Waiting

namespace Usage

structure Sound (script : Script) (usage : Usage) : Prop where
  accounts : Accounts script usage.journal usage.state
  waiting : ∀ read ∈ usage.waiting, read.IsServed script

variable {script : Script} {wall : Instant → Timestamp} {usage : Usage} {read : Waiting}

theorem Sound.settle (sound : usage.Sound script) (served : read.IsServed script) :
    (usage.settle read).Sound script := by
  obtain ⟨available, settles⟩ := served
  refine ⟨?_, sound.waiting⟩
  have ends := sound.accounts.served (usage.state.settles script read.id usage.now)
  rw [Usage.settle, available, settles]
  exact ends

theorem step_insert (script : Script) (wall : Instant → Timestamp) (usage : Usage) (record : Record) :
    ∃ answer after, usage.step script wall (.insert record) =
        usage.note (.inserted record answer) after ∧
      State.Inserts script record usage.now (wall usage.now) usage.state answer after :=
  ⟨_, _, rfl, usage.state.inserts script record _ _⟩

theorem Sound.step (sound : usage.Sound script) (request : Request) :
    (usage.step script wall request).Sound script := by
  obtain ⟨accounts, waiting⟩ := sound
  cases request with
  | insert record => exact ⟨accounts.inserted (usage.state.inserts script record _ _), waiting⟩
  | read id =>
    -- whether a read counts is settled as it begins, by the state as by the journal
    have same := accounts.isReachable_eq
    cases reachable : usage.state.isReachable with
    | false =>
      rw [step_read_refused script wall reachable, ← same, reachable]
      exact ⟨accounts.idle rfl rfl rfl rfl nofun, waiting⟩
    | true =>
      rw [step_read_accepted script wall reachable]
      extract_lets read
      have served : read.IsServed script := ⟨same.symm.trans reachable, rfl⟩
      split
      · exact Sound.settle ⟨accounts, waiting⟩ served
      · refine ⟨accounts, ?_⟩
        rw [List.forall_mem_append]
        exact ⟨waiting, List.forall_mem_singleton.mpr served⟩
  | settle place =>
    rw [Usage.step]
    split
    next read found =>
      split
      next =>
        have others (other : Waiting) (member : other ∈ usage.waiting.eraseIdx place) :
            other.IsServed script := waiting other (List.mem_of_mem_eraseIdx member)
        exact Sound.settle ⟨accounts, others⟩ (waiting read (List.mem_of_getElem? found))
      next => exact ⟨accounts, waiting⟩
    next => exact ⟨accounts, waiting⟩
  | giveUp place =>
    exact ⟨accounts, fun read member => waiting read (List.mem_of_mem_eraseIdx member)⟩
  | wait length => exact ⟨accounts, waiting⟩
  | setUnavailable value => exact ⟨accounts.switched value, waiting⟩
  | close => exact ⟨accounts.closed, waiting⟩

theorem run_sound (script : Script) (wall : Instant → Timestamp) (requests : List Request) :
    (run script wall requests).Sound script := by
  induction requests using List.reverseRecOn with
  | nil => exact ⟨.start script, nofun⟩
  | append_singleton requests request ih =>
    rw [run_append]
    exact ih.step request

end Usage

/-- What comes of an insertion into a store that has been used. -/
structure Insertion (wall : Instant → Timestamp) (usage : Usage) (record : Record)
    (answer : Except Error Uuid) (after : State) : Prop where
  ok_iff : (∃ id, answer = .ok id) ↔ Journal.isAvailable usage.journal = true ∧
    ¬Journal.HasCrashed usage.journal ∧ record.id ∉ (Journal.stored usage.journal).map (·.id) ∧
    State.due? record usage.now (wall usage.now) ≠ none
  crash_iff : answer = .error .instantOverflow ↔ Journal.isAvailable usage.journal = true ∧
    ¬Journal.HasCrashed usage.journal ∧ record.id ∉ (Journal.stored usage.journal).map (·.id) ∧
    State.due? record usage.now (wall usage.now) = none
  unchanged : ∀ fault, answer = .error fault → fault ≠ .instantOverflow → after = usage.state
  crashed : answer = .error .instantOverflow → after = { usage.state with poisoned := true }

/-- What a store tells of itself after some requests, and does on the next one. -/
structure Bookkept (script : Script) (wall : Instant → Timestamp) (requests : List Request)
    (usage : Usage) : Prop where
  size_eq : ¬Journal.HasCrashed usage.journal →
    usage.state.size = ((Journal.stored usage.journal).map (·.id)).toFinset.card
  record?_eq : ¬Journal.HasCrashed usage.journal → ∀ id,
    usage.state.record? id = (Journal.stored usage.journal).find? (·.id = id)
  record?_stays : ∀ later, ¬Journal.HasCrashed (Usage.run script wall (requests ++ later)).journal →
    ∀ id record, usage.state.record? id = some record →
      (Usage.run script wall (requests ++ later)).state.record? id = some record
  insertion : ∀ record, ∃ answer after,
    usage.step script wall (.insert record) = usage.note (.inserted record answer) after ∧
      Insertion wall usage record answer after
  reads_eq : usage.state.reads = (Journal.served usage.journal).length
  within_budget : ¬Journal.HasCrashed usage.journal → ∀ earlier answer later,
    Journal.served usage.journal = earlier ++ answer :: later →
      ((∃ status, answer = .ok status) ↔
        ∀ budget, script.readBudget = some budget → earlier.length < budget)
  beyond_budget : ∀ earlier answer later budget,
    Journal.served usage.journal = earlier ++ answer :: later → script.readBudget = some budget →
      budget ≤ earlier.length → answer = .error State.broken
  closed : .close ∈ requests → ∀ record id,
    usage.step script wall (.insert record) =
        usage.note (.inserted record (.error State.refused)) usage.state ∧
      usage.step script wall (.read id) =
        usage.note (.read false id (.error State.refused)) usage.state
  crashed : Journal.HasCrashed usage.journal →
    usage.state.size = 0 ∧ (∀ id, usage.state.record? id = none) ∧
      CrashCause script usage.journal

namespace Accounts

variable {script : Script} {wall : Instant → Timestamp} {journal : List Deed} {state : State}

theorem sound_iff (accounts : Accounts script journal state) :
    state.poisoned = false ↔ ¬Journal.HasCrashed journal := by
  rw [← accounts.poisoned_iff, Bool.not_eq_true]

theorem size_eq (accounts : Accounts script journal state) (sound : ¬Journal.HasCrashed journal) :
    state.size = ((Journal.stored journal).map (·.id)).toFinset.card := by
  have length := congrArg List.length accounts.ids_eq
  rw [List.length_map, List.length_reverse] at length
  rw [List.toFinset_card_of_nodup accounts.distinct, State.size, accounts.sound_iff.mpr sound,
    if_neg Bool.false_ne_true, length]

theorem record?_eq (accounts : Accounts script journal state) (sound : ¬Journal.HasCrashed journal)
    (id : Uuid) : state.record? id = (Journal.stored journal).find? (·.id = id) := by
  rw [State.record?, accounts.sound_iff.mpr sound, if_neg Bool.false_ne_true, accounts.find?_eq]

theorem out_of_reach (accounts : Accounts script journal state) (crashed : Journal.HasCrashed journal) :
    state.size = 0 ∧ ∀ id, state.record? id = none := by
  have poisoned := accounts.poisoned_iff.mpr crashed
  exact ⟨if_pos poisoned, fun id => if_pos poisoned⟩

theorem insertion {usage : Usage} (accounts : Accounts script usage.journal usage.state)
    {record : Record} {answer : Except Error Uuid} {after : State}
    (inserts : State.Inserts script record usage.now (wall usage.now) usage.state answer after) :
    Insertion wall usage record answer after where
  ok_iff := by
    rw [inserts.ok_iff, accounts.isReachable_eq, accounts.sound_iff, accounts.find?_eq_none_iff]
  crash_iff := by
    rw [inserts.crash_iff, accounts.isReachable_eq, accounts.sound_iff, accounts.find?_eq_none_iff]
  unchanged fault := inserts.unchanged
  crashed := inserts.of_crash

theorem answer_allowed (accounts : Accounts script journal state)
    {earlier later : List (Except Error (Option Status))} {answer : Except Error (Option Status)}
    (split : Journal.served journal = earlier ++ answer :: later) :
    ∃ before, Journal.served before = earlier ∧ script.Allows before answer ∧
      (Journal.HasCrashed before ∨ answer = .error .instantOverflow → Journal.HasCrashed journal) := by
  obtain ⟨before, id, after, rfl, same⟩ := Journal.exists_of_served_eq split
  refine ⟨before, same, accounts.answered before id answer after rfl, ?_⟩
  rintro (crashed | rfl)
  · exact crashed.mono (List.prefix_append ..)
  · exact .of_mem (List.mem_append_right _ (List.mem_cons_self ..)) rfl

end Accounts

open Usage in
/-- A store keeps its books, whatever is done with it, as long as no call of it has crashed; the counter, the
end of the budget, the closing and what comes of an insertion do not depend on that. -/
theorem books_kept (script : Script) (wall : Instant → Timestamp) (requests : List Request) :
    Bookkept script wall requests (run script wall requests) := by
  obtain ⟨accounts, _⟩ := run_sound script wall requests
  exact {
    size_eq := accounts.size_eq
    record?_eq := accounts.record?_eq
    record?_stays := by
      intro later sound id record found
      have grown := journal_run_append script wall requests later
      have before := mt (Journal.HasCrashed.mono grown) sound
      have after := (run_sound script wall (requests ++ later)).accounts
      rw [accounts.record?_eq before] at found
      rw [after.record?_eq sound]
      exact Journal.find?_stored_mono grown found
    insertion := by
      intro record
      obtain ⟨answer, after, step, inserts⟩ :=
        step_insert script wall (run script wall requests) record
      exact ⟨answer, after, step, accounts.insertion inserts⟩
    reads_eq := accounts.reads_eq
    within_budget := by
      intro sound earlier answer later split
      obtain ⟨before, rfl, allows, crashed⟩ := accounts.answer_allowed split
      exact allows.ok_iff (fun early => sound (crashed (.inl early)))
        fun now => sound (crashed (.inr now))
    beyond_budget := by
      intro earlier answer later budget split limited spent
      obtain ⟨before, rfl, allows, _⟩ := accounts.answer_allowed split
      exact allows.of_spent limited spent
    closed := by
      intro closes record id
      have unavailable := Journal.isAvailable_of_closed (closed_of_mem script wall closes)
      have unreachable := accounts.isReachable_eq.trans unavailable
      have read := step_read_refused script wall unreachable id
      rw [unavailable] at read
      exact ⟨step_insert_refused script wall unreachable record, read⟩
    crashed := by
      intro crashed
      obtain ⟨size, records⟩ := accounts.out_of_reach crashed
      exact ⟨size, records, accounts.crash_cause crashed⟩ }

namespace Sample

def endlessScript : Script := { behavior := .honor .longest }

def oddRecord : Record := .immediate ⟨.ofNat 1, .ofNat 7⟩ "T" "B"

def crashingUse : Usage :=
  Usage.run endlessScript (fun now => ⟨now⟩) [.insert oddRecord, .read oddRecord.id]

/-- Due two seconds after the last but one second that can be written. -/
def lateRecord : Record := .scheduled ⟨.ofNat 2, .ofNat 7⟩ "T" "B" ⟨9223372036854775808 * second⟩

end Sample

open Sample in
theorem crash_hides_record :
    Journal.stored crashingUse.journal = [oddRecord] ∧
      ((Journal.stored crashingUse.journal).map (·.id)).toFinset.card = 1 ∧
      crashingUse.state.size = 0 ∧ crashingUse.state.record? oddRecord.id = none := by
  decide

open Sample in
example :
    let usage := Usage.run { behavior := .eager } (fun now => ⟨now⟩)
      [.insert oddRecord, .wait (.ofSeconds 9223372036854775806), .insert lateRecord]
    usage.journal.getLast? = some (.inserted lateRecord (.error .instantOverflow)) ∧
      usage.state.entries.length = 1 ∧ usage.state.size = 0 := by
  decide

end DeliveryCheck.Worker
