import Mathlib.Data.List.Nodup
import DeliveryCheck.Proofs.Worker.Journal

namespace DeliveryCheck.Worker

namespace State

inductive Inserts (script : Script) (record : Record) (now : Instant) (wall : Timestamp)
    (state : State) : Except Error Uuid → State → Prop where
  | refused (unreachable : state.isReachable = false) :
    Inserts script record now wall state (.error refused) state
  | outOfReach (reachable : state.isReachable = true) (poisoned : state.poisoned = true) :
    Inserts script record now wall state (.error outOfReach) state
  | duplicate (reachable : state.isReachable = true) (sound : state.poisoned = false)
    (present : state.find? record.id ≠ none) :
    Inserts script record now wall state (.error (duplicate record.id)) state
  | stored {entry} (reachable : state.isReachable = true) (sound : state.poisoned = false)
    (fresh : state.find? record.id = none) (made : entryFor? script record now wall = some entry) :
    Inserts script record now wall state (.ok record.id)
      { state with entries := entry :: state.entries }
  | crashed (reachable : state.isReachable = true) (sound : state.poisoned = false)
    (fresh : state.find? record.id = none) (overflows : due? record now wall = none) :
    Inserts script record now wall state (.error .instantOverflow) { state with poisoned := true }

theorem inserts (state : State) (script : Script) (record : Record) (now : Instant) (wall : Timestamp) :
    Inserts script record now wall state (state.insert script record now wall).1
      (state.insert script record now wall).2 := by
  unfold insert
  by_cases unreachable : state.isReachable = false
  · simpa [unreachable] using Inserts.refused unreachable
  rw [Bool.not_eq_false] at unreachable
  by_cases poisoned : state.poisoned = true
  · simpa [unreachable, poisoned] using Inserts.outOfReach unreachable poisoned
  rw [Bool.not_eq_true] at poisoned
  by_cases fresh : state.find? record.id = none
  · cases made : entryFor? script record now wall with
    | some entry => simpa [unreachable, poisoned, fresh] using Inserts.stored unreachable poisoned fresh made
    | none =>
      have overflows : due? record now wall = none := Option.map_eq_none_iff.mp made
      simpa [unreachable, poisoned, fresh] using Inserts.crashed unreachable poisoned fresh overflows
  · have present : (state.find? record.id).isSome = true := Option.isSome_iff_ne_none.mpr fresh
    simpa [unreachable, poisoned, present] using Inserts.duplicate unreachable poisoned fresh

section

variable {script : Script} {record : Record} {now : Instant} {wall : Timestamp} {state after : State}
  {answer : Except Error Uuid}

theorem Inserts.unchanged {fault : Error}
    (inserts : Inserts script record now wall state answer after) (failed : answer = .error fault)
    (calm : fault ≠ .instantOverflow) : after = state := by
  cases inserts with
  | refused | outOfReach | duplicate => rfl
  | stored => cases failed
  | crashed =>
    cases failed
    exact absurd rfl calm

theorem Inserts.of_crash (inserts : Inserts script record now wall state answer after)
    (crashes : answer = .error .instantOverflow) : after = { state with poisoned := true } := by
  cases inserts with
  | refused | outOfReach | duplicate | stored => cases crashes
  | crashed => rfl

theorem Inserts.ok_iff (inserts : Inserts script record now wall state answer after) :
    (∃ id, answer = .ok id) ↔ state.isReachable = true ∧ state.poisoned = false ∧
      state.find? record.id = none ∧ due? record now wall ≠ none := by
  cases inserts with
  | refused unreachable => simp [unreachable]
  | outOfReach _ poisoned => simp [poisoned]
  | duplicate _ _ present => simp [present]
  | stored reachable sound fresh made =>
    obtain ⟨due, written, rfl⟩ := entryFor?_eq_some_iff.mp made
    simp [reachable, sound, fresh, written]
  | crashed _ _ _ overflows => simp [overflows]

theorem Inserts.crash_iff (inserts : Inserts script record now wall state answer after) :
    answer = .error .instantOverflow ↔ state.isReachable = true ∧ state.poisoned = false ∧
      state.find? record.id = none ∧ due? record now wall = none := by
  cases inserts with
  | refused unreachable => simp [unreachable, State.refused]
  | outOfReach _ poisoned => simp [poisoned, State.outOfReach]
  | duplicate _ _ present => simp [present, State.duplicate]
  | stored reachable sound fresh made =>
    obtain ⟨due, written, rfl⟩ := entryFor?_eq_some_iff.mp made
    simp [written]
  | crashed reachable sound fresh overflows => simp [reachable, sound, fresh, overflows]

theorem deliverAt_of_overflow (overflows : due? record now wall = none) :
    ∃ due, record.deliverAt = some due := by
  unfold due? at overflows
  split at overflows
  next due dated => exact ⟨due, dated⟩
  next => cases overflows

end

def counted (state : State) : State := { state with reads := state.reads + 1 }

def isSpent (state : State) (script : Script) : Bool := script.readBudget.any (· ≤ state.reads)

/-- The ways in which a read ends that found the store available. -/
inductive Settles (script : Script) (id : Uuid) (now : Instant) (state : State) :
    Except Error (Option Status) → State → Prop where
  | broken (spent : state.isSpent script = true) :
    Settles script id now state (.error broken) state.counted
  | outOfReach (left : state.isSpent script = false) (poisoned : state.poisoned = true) :
    Settles script id now state (.error outOfReach) state.counted
  | missing (left : state.isSpent script = false) (sound : state.poisoned = false)
    (missing : state.find? id = none) : Settles script id now state (.ok none) state.counted
  | seen {entry later status} (left : state.isSpent script = false) (sound : state.poisoned = false)
    (found : state.find? id = some entry) (observed : entry.observe now = some (status, later)) :
    Settles script id now state (.ok status)
      { state.counted with entries := replace state.entries later }
  | crashed {entry} (left : state.isSpent script = false) (sound : state.poisoned = false)
    (found : state.find? id = some entry) (overflows : entry.observe now = none) :
    Settles script id now state (.error .instantOverflow) { state.counted with poisoned := true }

theorem settles (state : State) (script : Script) (id : Uuid) (now : Instant) :
    Settles script id now state (state.settleRead script id now).1
      (state.settleRead script id now).2 := by
  by_cases spent : state.isSpent script = true
  · have ended : state.settleRead script id now = (.error broken, state.counted) := if_pos spent
    rw [ended]
    exact .broken spent
  have looks : state.settleRead script id now = state.counted.look id now := if_neg spent
  rw [Bool.not_eq_true] at spent
  by_cases poisoned : state.poisoned = true
  · have ended : state.counted.look id now = (.error outOfReach, state.counted) := if_pos poisoned
    rw [looks, ended]
    exact .outOfReach spent poisoned
  have counted : ¬state.counted.poisoned = true := poisoned
  rw [Bool.not_eq_true] at poisoned
  rw [looks, look, if_neg counted, show state.counted.find? id = state.find? id from rfl]
  cases found : state.find? id with
  | none => exact .missing spent poisoned found
  | some entry =>
    dsimp only
    cases observed : entry.observe now with
    | none => exact .crashed spent poisoned found observed
    | some seen => exact .seen spent poisoned found observed

end State

/-- The time that the worker adds to an instant of the record, if it does. -/
def Behavior.latency? : Behavior → Option Duration
  | honor latency => some latency
  | flapping latency => some latency
  | _ => none

def Script.terms (script : Script) (record : Record) : Record × Behavior :=
  (record, script.behaviorFor record)

/-- What a read that found the store available may be answered, after what a journal tells. -/
def Script.Allows (script : Script) (journal : List Deed) (answer : Except Error (Option Status)) :
    Prop :=
  if script.readBudget.any (· ≤ (Journal.served journal).length) then answer = .error State.broken
  else if Journal.HasCrashed journal then answer = .error State.outOfReach
  else answer = .error .instantOverflow ∨ ∃ status, answer = .ok status

namespace Script

variable {script : Script} {journal : List Deed} {answer : Except Error (Option Status)}

theorem Allows.of_spent {budget : Nat} (allows : script.Allows journal answer)
    (limited : script.readBudget = some budget) (spent : budget ≤ (Journal.served journal).length) :
    answer = .error State.broken := by
  have used : script.readBudget.any (· ≤ (Journal.served journal).length) = true := by
    simpa [limited] using spent
  rwa [Allows, if_pos used] at allows

theorem Allows.ok_iff (allows : script.Allows journal answer) (sound : ¬Journal.HasCrashed journal)
    (calm : answer ≠ .error .instantOverflow) :
    (∃ status, answer = .ok status) ↔
      ∀ budget, script.readBudget = some budget → (Journal.served journal).length < budget := by
  constructor
  · rintro ⟨status, rfl⟩ budget limited
    by_contra spent
    cases allows.of_spent limited (Nat.le_of_not_lt spent)
  · intro left
    have remains : ¬script.readBudget.any (· ≤ (Journal.served journal).length) = true := by
      rw [Option.any_eq_true]
      rintro ⟨budget, limited, spent⟩
      exact Nat.not_lt.mpr (of_decide_eq_true spent) (left budget limited)
    rw [Allows, if_neg remains, if_neg sound] at allows
    exact allows.resolve_left calm

end Script

namespace Entry

def terms (entry : Entry) : Record × Behavior := (entry.record, entry.behavior)

theorem terms_observe {entry later : Entry} {now : Instant} {status : Option Status}
    (observed : entry.observe now = some (status, later)) : later.terms = entry.terms :=
  congrArg₂ Prod.mk (record_observe observed) (behavior_observe observed)

theorem latency_of_overflow {entry : Entry} {now : Instant} (overflows : entry.observe now = none) :
    ∃ latency, entry.behavior.latency? = some latency := by
  cases kind : entry.behavior with
  | honor latency | flapping latency => exact ⟨latency, rfl⟩
  | eager | stalled | invisible | failing => simp [observe, kind] at overflows

end Entry

theorem find?_reverse {records : List Record} (distinct : (records.map (·.id)).Nodup) (id : Uuid) :
    records.reverse.find? (·.id = id) = records.find? (·.id = id) := by
  induction records with
  | nil => rfl
  | cons record rest ih =>
    obtain ⟨single, distinct⟩ := List.nodup_cons.mp distinct
    rw [List.reverse_cons, List.find?_append, ih distinct]
    by_cases same : record.id = id
    · have missing : rest.find? (·.id = id) = none := by
        apply List.find?_eq_none.mpr
        intro other member equal
        exact single (List.mem_map.mpr ⟨other, member, (of_decide_eq_true equal).trans same.symm⟩)
      simp [missing, same]
    · simp [same]

theorem append_cons_eq_concat {α : Type} {earlier later list : List α} {answer last : α}
    (split : list ++ [last] = earlier ++ answer :: later) :
    (earlier = list ∧ answer = last) ∨ ∃ rest, list = earlier ++ answer :: rest := by
  rcases List.eq_nil_or_concat later with rfl | ⟨rest, final, rfl⟩
  · obtain ⟨rfl, same⟩ := List.append_inj' split rfl
    exact .inl ⟨rfl, (List.cons.inj same).1.symm⟩
  · rw [List.concat_eq_append, ← List.cons_append, ← List.append_assoc] at split
    exact .inr ⟨rest, (List.append_inj' split rfl).1⟩

namespace State

variable {script : Script} {state after : State} {id : Uuid} {now : Instant}
  {answer : Except Error (Option Status)}

theorem map_terms_replace {entries : List Entry} {entry later : Entry}
    (distinct : (entries.map (·.record.id)).Nodup) (member : entry ∈ entries)
    (same : later.terms = entry.terms) :
    (replace entries later).map Entry.terms = entries.map Entry.terms := by
  have record : later.record = entry.record := congrArg Prod.fst same
  rw [replace, List.map_map]
  apply List.map_congr_left
  intro old present
  by_cases own : old.record.id = later.record.id
  · have here : old = entry := List.inj_on_of_nodup_map distinct present member (own.trans (record ▸ rfl))
    rw [Function.comp_apply, if_pos own, same, here]
  · rw [Function.comp_apply, if_neg own]

theorem Settles.terms_eq (settles : Settles script id now state answer after)
    (distinct : (state.entries.map (·.record.id)).Nodup) :
    after.entries.map Entry.terms = state.entries.map Entry.terms := by
  cases settles with
  | broken | outOfReach | missing | crashed => rfl
  | seen _ _ found observed =>
    exact map_terms_replace distinct (List.mem_of_find?_eq_some found) (Entry.terms_observe observed)

theorem Settles.frame (settles : Settles script id now state answer after) :
    after.unavailable = state.unavailable ∧ after.closed = state.closed ∧
      after.reads = state.reads + 1 := by
  cases settles <;> exact ⟨rfl, rfl, rfl⟩

theorem Settles.poisoned_iff (settles : Settles script id now state answer after) :
    after.poisoned = true ↔ state.poisoned = true ∨ answer = .error .instantOverflow := by
  cases settles with
  | broken | outOfReach | missing | seen => simp [counted, State.broken, State.outOfReach]
  | crashed => simp

theorem Settles.overflows (settles : Settles script id now state answer after)
    (crashed : answer = .error .instantOverflow) :
    ∃ entry, state.find? id = some entry ∧ entry.observe now = none := by
  cases settles with
  | broken | outOfReach | missing | seen => cases crashed
  | crashed _ _ found overflows => exact ⟨_, found, overflows⟩

end State

/-- Why a store has crashed: a read of a record whose worker adds to an instant did, or the insertion of a
record with a delivery time. -/
inductive CrashCause (script : Script) (journal : List Deed) : Prop where
  | read {record latency} (crashed : .read true record.id (.error .instantOverflow) ∈ journal)
    (stored : record ∈ Journal.stored journal)
    (adds : (script.behaviorFor record).latency? = some latency) : CrashCause script journal
  | insertion {record due} (crashed : .inserted record (.error .instantOverflow) ∈ journal)
    (dated : record.deliverAt = some due) : CrashCause script journal

theorem CrashCause.mono {script : Script} {journal longer : List Deed} (grown : journal <+: longer)
    (cause : CrashCause script journal) : CrashCause script longer := by
  cases cause with
  | read crashed stored adds =>
    exact .read (grown.subset crashed) ((grown.filterMap Deed.stored?).subset stored) adds
  | insertion crashed dated => exact .insertion (grown.subset crashed) dated

/-- The state of a store is the one that the journal leads to. -/
structure Accounts (script : Script) (journal : List Deed) (state : State) : Prop where
  unavailable_eq : state.unavailable = Journal.isSwitchedOff journal
  closed_eq : state.closed = decide (Deed.closed ∈ journal)
  reads_eq : state.reads = (Journal.served journal).length
  poisoned_iff : state.poisoned = true ↔ Journal.HasCrashed journal
  terms_eq : state.entries.map Entry.terms = (Journal.stored journal).reverse.map script.terms
  distinct : ((Journal.stored journal).map (·.id)).Nodup
  answered : ∀ earlier id answer later, journal = earlier ++ .read true id answer :: later →
    script.Allows earlier answer
  crash_cause : Journal.HasCrashed journal → CrashCause script journal

namespace Accounts

variable {script : Script} {journal : List Deed} {state after : State} {id : Uuid} {record : Record}
  {now : Instant} {wall : Timestamp}

theorem start (script : Script) : Accounts script [] {} where
  unavailable_eq := rfl
  closed_eq := rfl
  reads_eq := rfl
  poisoned_iff := by decide
  terms_eq := rfl
  distinct := .nil
  answered earlier id answer later split := by simp at split
  crash_cause crashed := by cases crashed

theorem isReachable_eq (accounts : Accounts script journal state) :
    state.isReachable = Journal.isAvailable journal := by
  rw [State.isReachable, accounts.unavailable_eq, accounts.closed_eq, Journal.isAvailable]

theorem records_eq (accounts : Accounts script journal state) :
    state.entries.map (·.record) = (Journal.stored journal).reverse := by
  have first := congrArg (List.map Prod.fst) accounts.terms_eq
  rw [List.map_map, List.map_map] at first
  exact first.trans (List.map_id _)

theorem ids_eq (accounts : Accounts script journal state) :
    state.entries.map (·.record.id) = ((Journal.stored journal).map (·.id)).reverse := by
  have ids := congrArg (List.map Record.id) accounts.records_eq
  rw [List.map_map, List.map_reverse] at ids
  exact ids

theorem stored_of_find? (accounts : Accounts script journal state) {entry : Entry}
    (found : state.find? id = some entry) :
    entry.record ∈ Journal.stored journal ∧ script.behaviorFor entry.record = entry.behavior := by
  have member := List.mem_of_find?_eq_some found
  have terms : entry.terms ∈ (Journal.stored journal).reverse.map script.terms :=
    accounts.terms_eq ▸ List.mem_map_of_mem member
  obtain ⟨record, stored, same⟩ := List.mem_map.mp terms
  obtain rfl : record = entry.record := congrArg Prod.fst same
  exact ⟨List.mem_reverse.mp stored, congrArg Prod.snd same⟩

theorem find?_eq (accounts : Accounts script journal state) (id : Uuid) :
    (state.find? id).map (·.record) = (Journal.stored journal).find? (·.id = id) := by
  rw [← find?_reverse accounts.distinct, ← accounts.records_eq, List.find?_map]
  rfl

theorem find?_eq_none_iff (accounts : Accounts script journal state) :
    state.find? id = none ↔ id ∉ (Journal.stored journal).map (·.id) := by
  rw [← Option.map_eq_none_iff, accounts.find?_eq, List.find?_eq_none]
  simp

theorem answered_concat {deed : Deed} (accounts : Accounts script journal state)
    (allows : ∀ id answer, deed = .read true id answer → script.Allows journal answer) :
    ∀ earlier id answer later, journal ++ [deed] = earlier ++ .read true id answer :: later →
      script.Allows earlier answer := by
  intro earlier id answer later split
  rcases append_cons_eq_concat split with ⟨rfl, same⟩ | ⟨rest, before⟩
  · exact allows id answer same.symm
  · exact accounts.answered earlier id answer rest before

theorem transfer {deed : Deed} (accounts : Accounts script journal state)
    (unstored : deed.stored? = none) (unserved : deed.served? = none) (calm : deed.crashed = false)
    (entries : after.entries = state.entries) (reads : after.reads = state.reads)
    (poisoned : after.poisoned = state.poisoned)
    (unavailable_eq : after.unavailable = Journal.isSwitchedOff (journal ++ [deed]))
    (closed_eq : after.closed = decide (Deed.closed ∈ journal ++ [deed])) :
    Accounts script (journal ++ [deed]) after where
  unavailable_eq := unavailable_eq
  closed_eq := closed_eq
  reads_eq := by simp [reads, unserved, accounts.reads_eq]
  poisoned_iff := by simp [poisoned, calm, accounts.poisoned_iff]
  terms_eq := by simp [entries, unstored, accounts.terms_eq]
  distinct := by simpa [unstored] using accounts.distinct
  answered := accounts.answered_concat fun id answer same => by simp [same, Deed.served?] at unserved
  crash_cause crashed := by
    rw [Journal.hasCrashed_concat, calm] at crashed
    exact (accounts.crash_cause (crashed.resolve_right Bool.false_ne_true)).mono
      (List.prefix_append ..)

theorem idle {deed : Deed} (accounts : Accounts script journal state) (unstored : deed.stored? = none)
    (unserved : deed.served? = none) (calm : deed.crashed = false)
    (unswitched : deed.switched? = none) (other : deed ≠ .closed) :
    Accounts script (journal ++ [deed]) state := by
  apply accounts.transfer unstored unserved calm rfl rfl rfl
  · simpa [unswitched] using accounts.unavailable_eq
  · simpa [Ne.symm other] using accounts.closed_eq

theorem switched (accounts : Accounts script journal state) (value : Bool) :
    Accounts script (journal ++ [.switched value]) (state.setUnavailable value) := by
  have entries : (state.setUnavailable value).entries = state.entries := rfl
  apply accounts.transfer rfl rfl rfl entries rfl rfl
  · simp [Deed.switched?, State.setUnavailable]
  · simpa [State.setUnavailable] using accounts.closed_eq

theorem closed (accounts : Accounts script journal state) :
    Accounts script (journal ++ [.closed]) state.close := by
  have entries : state.close.entries = state.entries := rfl
  apply accounts.transfer rfl rfl rfl entries rfl rfl
  · simpa [Deed.switched?, State.close] using accounts.unavailable_eq
  · simp [State.close]

theorem inserted {answer : Except Error Uuid} (accounts : Accounts script journal state)
    (inserts : State.Inserts script record now wall state answer after) :
    Accounts script (journal ++ [.inserted record answer]) after := by
  cases inserts with
  | refused | outOfReach | duplicate => exact accounts.idle rfl rfl rfl rfl nofun
  | stored _ _ fresh made =>
    have absent := accounts.find?_eq_none_iff.mp fresh
    obtain ⟨due, _, rfl⟩ := State.entryFor?_eq_some_iff.mp made
    exact {
      unavailable_eq := by simpa [Deed.switched?] using accounts.unavailable_eq
      closed_eq := by simpa using accounts.closed_eq
      reads_eq := by simpa [Deed.served?] using accounts.reads_eq
      poisoned_iff := by simpa [Deed.crashed] using accounts.poisoned_iff
      terms_eq := by simpa [Deed.stored?, Entry.terms, Script.terms] using accounts.terms_eq
      distinct := by simpa [Deed.stored?] using accounts.distinct.concat absent
      answered := accounts.answered_concat nofun
      crash_cause := by
        intro crashed
        have before : Journal.HasCrashed journal := by simpa [Deed.crashed] using crashed
        exact (accounts.crash_cause before).mono (List.prefix_append ..) }
  | crashed _ _ _ overflows =>
    obtain ⟨due, dated⟩ := State.deliverAt_of_overflow overflows
    exact {
      unavailable_eq := by simpa [Deed.switched?] using accounts.unavailable_eq
      closed_eq := by simpa using accounts.closed_eq
      reads_eq := by simpa [Deed.served?] using accounts.reads_eq
      poisoned_iff := by simp [Deed.crashed]
      terms_eq := by simpa [Deed.stored?] using accounts.terms_eq
      distinct := by simpa [Deed.stored?] using accounts.distinct
      answered := accounts.answered_concat nofun
      crash_cause := fun _ => .insertion (by simp) dated }

theorem allows {answer : Except Error (Option Status)} (accounts : Accounts script journal state)
    (settles : State.Settles script id now state answer after) : script.Allows journal answer := by
  have crashed := accounts.poisoned_iff
  have uncrashed (sound : state.poisoned = false) : ¬Journal.HasCrashed journal :=
    fun failed => ne_true_of_eq_false sound (crashed.mpr failed)
  rw [Script.Allows, ← accounts.reads_eq]
  change if state.isSpent script then _ else _
  cases settles with
  | broken spent => rw [if_pos spent]
  | outOfReach left poisoned =>
    rw [if_neg (ne_true_of_eq_false left), if_pos (crashed.mp poisoned)]
  | crashed left sound =>
    rw [if_neg (ne_true_of_eq_false left), if_neg (uncrashed sound)]
    exact .inl rfl
  | missing left sound | seen left sound =>
    rw [if_neg (ne_true_of_eq_false left), if_neg (uncrashed sound)]
    exact .inr ⟨_, rfl⟩

theorem served {answer : Except Error (Option Status)} (accounts : Accounts script journal state)
    (settles : State.Settles script id now state answer after) :
    Accounts script (journal ++ [.read true id answer]) after where
  unavailable_eq := by simpa [Deed.switched?, settles.frame] using accounts.unavailable_eq
  closed_eq := by simpa [settles.frame] using accounts.closed_eq
  reads_eq := by simpa [Deed.served?, settles.frame] using accounts.reads_eq
  poisoned_iff := by
    rw [settles.poisoned_iff, Journal.hasCrashed_concat, accounts.poisoned_iff, Deed.crashed_read_iff]
  terms_eq := by
    have distinct : (state.entries.map (·.record.id)).Nodup :=
      accounts.ids_eq ▸ List.nodup_reverse.mpr accounts.distinct
    simpa [Deed.stored?, settles.terms_eq distinct] using accounts.terms_eq
  distinct := by simpa [Deed.stored?] using accounts.distinct
  answered := accounts.answered_concat fun _ _ same => by
    cases same
    exact accounts.allows settles
  crash_cause crashed := by
    have grown : journal <+: journal ++ [.read true id answer] := List.prefix_append ..
    rcases Journal.hasCrashed_concat.mp crashed with before | now
    · exact (accounts.crash_cause before).mono grown
    · rw [Deed.crashed_read_iff] at now
      obtain ⟨entry, found, overflows⟩ := settles.overflows now
      obtain ⟨stored, same⟩ := accounts.stored_of_find? found
      obtain ⟨latency, adds⟩ := Entry.latency_of_overflow overflows
      rw [← State.id_of_find? found, now]
      exact .read (List.mem_append_right _ (List.mem_singleton_self _)) (by simp [stored])
        (same ▸ adds)

end Accounts

end DeliveryCheck.Worker
