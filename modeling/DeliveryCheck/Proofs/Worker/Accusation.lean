import DeliveryCheck.Proofs.Worker.Honest
import DeliveryCheck.Proofs.Scenario.Evidence

namespace DeliveryCheck

def Outcome.Accuses (outcome : Outcome) : Prop := ∃ status, outcome = .failed (.processedEarly status)

namespace Scenario

variable {σ : Type} {scenario : Scenario} {setting : Setting σ} {limit : Option Instant}
  {world after : World σ} {start now ended : Instant} {id : Uuid} {outcome : Outcome}
  {result : ScenarioResult}

theorem Judged.not_accuses {reads : List Read} (judged : scenario.Judged now reads ended outcome) :
    ¬ outcome.Accuses := by
  intro ⟨status, accused⟩
  cases judged with
  | timedOut => cases accused
  | @confirmed _ _ _ _ _ status =>
    cases status with
    | none => cases accused
    | some status =>
      rw [Scenario.confirmed] at accused
      split at accused <;> cases accused

theorem await_not_accuses
    (ends : (scenario.await start id now).alone setting limit world = (some (.ok result), after))
    (present : world.now = now) : ¬ result.outcome.Accuses := by
  subst present
  obtain ⟨story, course, -⟩ :=
    Procedure.alone_course setting limit (scenario.await start id world.now) world
  simp only [ends] at course
  obtain ⟨reads, outcome, judged, -, rfl⟩ := await_course course
  exact judged.not_accuses

theorem outcome_of_resolve
    (ends : (scenario.resolve start id outcome now).alone setting limit world =
      (some (.ok result), after)) : result.outcome = outcome := by
  cases ends
  rfl

theorem checkEarly_accuses_iff {call : Call σ (Option Status)} {state : σ}
    (called : setting.store.read id world.now world.state = (call, state))
    (ends : (scenario.checkEarly start id).alone setting limit world = (some (.ok result), after)) :
    ∃ status, (call.settle (world.now.after call.takes) state).1 = .ok status ∧
      (result.outcome.Accuses ↔ status.any Status.processed) := by
  obtain rfl : (setting.store.read id world.now world.state).1 = call := by rw [called]
  obtain rfl : (setting.store.read id world.now world.state).2 = state := by rw [called]
  rw [checkEarly, Procedure.alone_read] at ends
  dsimp only at ends
  split at ends
  · cases ends
  split at ends
  next => cases ends
  next hidden =>
    refine ⟨none, hidden, ?_⟩
    rw [outcome_of_resolve ends]
    simp [Outcome.Accuses]
  next status shown =>
    refine ⟨some status, shown, ?_⟩
    split at ends
    next processed =>
      rw [outcome_of_resolve ends]
      simp [Outcome.Accuses, processed]
    next pending =>
      rw [Procedure.alone, Procedure.alone] at ends
      split at ends
      · cases ends
      · have calm := await_not_accuses ends rfl
        simpa [pending] using calm

end Scenario

namespace Worker

section

variable {script : Script} {latency : Duration} {id : Uuid} {entry : Entry} {state after : State}
  {now : Instant} {status : Option Status} {wall : Instant → Timestamp}

theorem State.settleRead_honor (honors : entry.behavior = .honor latency)
    (found : state.find? id = some entry)
    (settled : state.settleRead script id now = (.ok status, after)) :
    status.any Status.processed ↔ entry.due + latency.nanos ≤ now := by
  rcases State.settleRead_ok settled with ⟨missing, _⟩ | ⟨other, later, foundToo, observed, _⟩
  · rw [found] at missing
    cases missing
  · rw [found] at foundToo
    cases foundToo
    simp only [Entry.observe, honors] at observed
    obtain ⟨ready, fits, same⟩ := Option.map_eq_some_iff.mp observed
    obtain ⟨_, rfl⟩ := Instant.after?_eq_some_iff.mp fits
    cases same
    simp [Entry.statusOf]

theorem read_honor {call : Call State (Option Status)} {later : State}
    (honors : entry.behavior = .honor latency) (found : state.find? id = some entry)
    (called : (store script wall).read id now state = (call, later))
    (answered : (call.settle (now.after call.takes) later).1 = .ok status) :
    status.any Status.processed ↔ entry.due + latency.nanos ≤ now.after script.readLatency := by
  dsimp only [store] at called
  split at called
  · cases called
    exact State.settleRead_honor honors found (Prod.ext answered rfl)
  · cases called
    cases answered

variable {scenario : Scenario} {make : Identity → Record} {limit : Option Instant}
  {world ended : World State} {result : ScenarioResult} {identity : Nat → Identity}
  {storeWall : Instant → Timestamp}

theorem follows_of_ends (made : scenario.record? (wall world.now) = .ok make)
    (still : storeWall world.now = wall world.now) (soon : world.now < Instant.limit)
    (ends : (Run.begin ⟨store script storeWall, identity, wall⟩ world scenario).alone
      ⟨store script storeWall, identity, wall⟩ limit world = (some (.ok result), ended)) :
    let record := make (identity world.issued)
    ∃ (entry : Entry) (later : World State),
      State.entryFor? script record world.now (wall world.now) = some entry ∧
      later.now = world.now ∧ later.state.find? record.id = some entry ∧
      (scenario.follow world.now record.id world.now).alone
        ⟨store script storeWall, identity, wall⟩ limit later = (some (.ok result), ended) := by
  have instantly : world.now.after Duration.zero = world.now := Procedure.after_zero soon
  rw [Run.begin, Scenario.check] at ends
  simp only [made] at ends
  rw [Procedure.alone_insert] at ends
  dsimp only at ends
  split at ends
  · cases ends
  split at ends
  next => cases ends
  next id stored =>
    -- The clock stands still during an insertion, so the record is due by the wall time of its start.
    change (world.state.insert script (make (identity world.issued))
      (world.now.after Duration.zero) (storeWall (world.now.after Duration.zero))).1 = .ok id at stored
    change Procedure.alone _ limit
      (scenario.follow world.now id (world.now.after Duration.zero)) _ = _ at ends
    rw [instantly] at ends
    rw [instantly, still] at stored
    obtain ⟨rfl, _, entry, fills, added⟩ := State.insert_ok (Prod.ext stored rfl)
    refine ⟨entry, _, fills, instantly, ?_, ends⟩
    change (world.state.insert script (make (identity world.issued))
      (world.now.after Duration.zero) (storeWall (world.now.after Duration.zero))).2.find? _ = _
    rw [instantly, still]
    have here := congrArg Record.id (State.record_entryFor? fills)
    exact (State.find?_inserted added _).trans (if_pos here)

end

/-- A worker that processes every record some latency after it is due, and never before, is accused of
having processed a scheduled record early exactly if the early read ends no earlier than that. -/
theorem honest_worker_accused_iff (scenario : Scenario) (script : Script) (latency : Duration)
    (wall storeWall : Instant → Timestamp) (identity : Nat → Identity) (make : Identity → Record)
    (limit : Option Instant) (world after : World State) (result : ScenarioResult)
    (scheduled : scenario.kind = .scheduled)
    (made : scenario.record? (wall world.now) = .ok make)
    (honors : script.behaviorFor (make (identity world.issued)) = .honor latency)
    (still : storeWall world.now = wall world.now) (soon : world.now < Instant.limit)
    (ends : (Run.begin ⟨store script storeWall, identity, wall⟩ world scenario).alone
      ⟨store script storeWall, identity, wall⟩ limit world = (some (.ok result), after)) :
    (∃ status, result.outcome = .failed (.processedEarly status)) ↔
      world.now + scenario.delay.nanos + latency.nanos ≤ world.now.after script.readLatency := by
  obtain ⟨entry, later, fills, now_eq, found, follows⟩ := follows_of_ends made still soon ends
  obtain ⟨due, written, rfl⟩ := State.entryFor?_eq_some_iff.mp fills
  obtain ⟨call, state, called⟩ : ∃ call state,
      (store script storeWall).read (make (identity world.issued)).id later.now later.state =
        (call, state) := ⟨_, _, rfl⟩
  rw [Scenario.follow, Procedure.alone, scheduled] at follows
  obtain ⟨status, answered, accuses_iff⟩ := Scenario.checkEarly_accuses_iff called follows
  have seen := read_honor honors found called answered
  obtain delayed | ⟨unwritten, _⟩ :=
    State.due?_record? made (absurd scheduled) world.now (identity world.issued)
  · rw [written] at delayed
    cases delayed
    rw [now_eq] at seen
    exact accuses_iff.trans seen
  · rw [written] at unwritten
    cases unwritten

namespace Sample

def soonSpec : Spec := { spec with delaySecs := some 1 }

def soonScenario : Scenario := soonSpec.fill ({} : PollingConfig)

def slowScript : Script := { behavior := .honor .zero, readLatency := .ofSeconds 1 }

end Sample

open Sample in
theorem honest_worker_accused_iff_slow_read :
    ∃ result after,
      (Run.begin ⟨store slowScript wall, identity, wall⟩ world soonScenario).alone
          ⟨store slowScript wall, identity, wall⟩ none world = (some (.ok result), after) ∧
      ∃ status, result.outcome = .failed (.processedEarly status) := by
  let make (who : Identity) : Record :=
    soonScenario.fill (.scheduled who "E2E Scheduled" "From the future" ⟨1000000000⟩)
  have made : soonScenario.record? (wall world.now) = .ok make := by rfl
  obtain ⟨result, after, ends⟩ : ∃ result after,
      (Run.begin ⟨store slowScript wall, identity, wall⟩ world soonScenario).alone
        ⟨store slowScript wall, identity, wall⟩ none world = (some (.ok result), after) :=
    ⟨_, _, rfl⟩
  exact ⟨result, after, ends,
    (honest_worker_accused_iff soonScenario slowScript .zero wall wall identity make none world after
      result rfl made rfl rfl (by decide) ends).mpr (by decide)⟩

namespace Sample

def dueSpec : Spec := { spec with delaySecs := some 0 }

def dueScenario : Scenario := dueSpec.fill ({} : PollingConfig)

def promptScript : Script := { behavior := .honor .zero }

end Sample

open Sample in
theorem record_due_at_once_accused :
    ({} : Config).check = .ok () ∧ dueSpec.resolve ({} : Config).polling = .ok dueScenario ∧
      dueScenario.kind = .scheduled ∧ promptScript.behavior = .honor .zero ∧
      ((Run.begin ⟨store promptScript wall, identity, wall⟩ world dueScenario).alone
          ⟨store promptScript wall, identity, wall⟩ none world).1 =
        some (.ok ⟨"sample", .scheduled, .ofNat 1, .failed (.processedEarly ⟨true, 0, none⟩), .zero⟩) := by
  exact ⟨by decide, by rfl, rfl, rfl, by rfl⟩

end Worker

end DeliveryCheck
