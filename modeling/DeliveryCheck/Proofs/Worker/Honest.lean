import DeliveryCheck.Run.All
import DeliveryCheck.Proofs.Scenario.Punctual
import DeliveryCheck.Proofs.Worker.Entries

namespace DeliveryCheck

theorem Timestamp.timeLeft_after? {now due : Timestamp} {delay : Duration}
    (found : now.after? delay = some due) : due.timeLeft now = delay := by
  unfold after? at found
  split at found
  · cases found
    have exact : (now.nanos + delay.nanos - now.nanos).toNat = delay.nanos := by omega
    rw [timeLeft, exact, Duration.clamp_nanos]
  · cases found

namespace Worker

section

variable {script : Script} {latency : Duration} {id : Uuid} {due : Instant}

/-- The state of a store that holds a record which is processed from a given instant on. -/
structure State.Holds (id : Uuid) (due : Instant) (state : State) : Prop where
  reachable : state.isReachable
  sound : state.poisoned = false
  entry : ∃ entry, state.find? id = some entry ∧
    ∀ now, entry.observe now = some (Scenario.processedFrom due now, entry)

theorem store_prompt {wall : Instant → Timestamp} (instantly : script.readLatency = .zero)
    (unlimited : script.readBudget = none) :
    (store script wall).Prompt id (State.Holds id due) (Scenario.processedFrom due) where
  takes now state held := by simp [store, held.reachable, instantly]
  answers now state held := by
    obtain ⟨entry, found, observed⟩ := held.entry
    simp [store, held.reachable,
      State.settleRead_observed unlimited held.sound found (observed now)]
  stays now state held := by
    obtain ⟨entry, found, observed⟩ := held.entry
    have same := State.settleRead_observed unlimited held.sound found (observed now)
    have here := State.id_of_find? found
    simp only [store, held.reachable, if_true, same]
    refine ⟨held.reachable, held.sound, entry, ?_, observed⟩
    rw [← here] at found
    rw [State.find?_observed rfl found]
    simp [here]

theorem State.due?_record? {scenario : Scenario} {make : Identity → Record} {wall : Timestamp}
    (made : scenario.record? wall = .ok make)
    (undelayed : scenario.kind ≠ .scheduled → scenario.delay = .zero) (now : Instant) (who : Identity) :
    due? (make who) now wall = some (now + scenario.delay.nanos) ∨
      due? (make who) now wall = none ∧ Instant.limit ≤ now + scenario.delay.nanos := by
  unfold Scenario.record? at made
  split at made
  next kind =>
    cases made
    rw [undelayed (by simp [kind])]
    exact .inl rfl
  next kind =>
    cases made
    rw [undelayed (by simp [kind])]
    exact .inl rfl
  next =>
    split at made
    next due found =>
      cases made
      have left := Timestamp.timeLeft_after? found
      simp only [due?, Scenario.fill, Record.scheduled, left, Instant.after?]
      split
      next => exact .inl rfl
      next late => exact .inr ⟨rfl, Nat.le_of_not_lt late⟩
    next => cases made

theorem State.id_of_record? {scenario : Scenario} {make : Identity → Record} {wall : Timestamp}
    (made : scenario.record? wall = .ok make) (who : Identity) : (make who).id = who.id := by
  unfold Scenario.record? at made
  split at made
  · cases made
    rfl
  · cases made
    rfl
  · split at made
    · cases made
      rfl
    · cases made

theorem check_inserts {wall storeWall : Instant → Timestamp} {identity : Nat → Identity}
    {scenario : Scenario} {make : Identity → Record} {world : World State}
    (made : scenario.record? (wall world.now) = .ok make)
    (honors : script.behaviorFor (make (identity world.issued)) = .honor latency)
    (reachable : world.state.isReachable) (sound : world.state.poisoned = false)
    (fresh : world.state.find? (identity world.issued).id = none)
    (still : storeWall world.now = wall world.now)
    (undelayed : scenario.kind ≠ .scheduled → scenario.delay = .zero)
    (fits : world.now + scenario.delay.nanos + latency.nanos < Instant.limit) :
    ∃ later : World State, later.now = world.now ∧
      later.state.Holds (identity world.issued).id
        (world.now + scenario.delay.nanos + latency.nanos) ∧
      (Run.begin ⟨store script storeWall, identity, wall⟩ world scenario).alone
          ⟨store script storeWall, identity, wall⟩ none world =
        (scenario.follow world.now (identity world.issued).id world.now).alone
          ⟨store script storeWall, identity, wall⟩ none later := by
  have early : world.now + scenario.delay.nanos < Instant.limit :=
    Nat.lt_of_le_of_lt (Nat.le_add_right ..) fits
  have due := (State.due?_record? made undelayed world.now (identity world.issued)).resolve_right
    fun late => Nat.not_le_of_lt early late.2
  let entry : Entry := ⟨make (identity world.issued), script.behaviorFor (make (identity world.issued)),
    world.now, world.now + scenario.delay.nanos, 0⟩
  have fills : State.entryFor? script (make (identity world.issued)) world.now (wall world.now) =
      some entry := State.entryFor?_eq_some_iff.mpr ⟨_, due, rfl⟩
  have here : entry.record.id = (identity world.issued).id := State.id_of_record? made _
  have ready : entry.due.after? latency =
      some (world.now + scenario.delay.nanos + latency.nanos) :=
    Instant.after?_eq_some_iff.mpr ⟨fits, rfl⟩
  have soon : world.now < Instant.limit := by
    apply Nat.lt_of_le_of_lt _ fits
    rw [Nat.add_assoc]
    exact Nat.le_add_right ..
  have inserted : world.state.insert script (make (identity world.issued)) world.now
      (storeWall world.now) =
        (.ok entry.record.id, { world.state with entries := entry :: world.state.entries }) := by
    rw [still]
    rw [← here] at fresh
    exact State.insert_fresh reachable sound fresh fills
  let setting : Setting State := ⟨store script storeWall, identity, wall⟩
  let begun := world.beginInsert setting make
  let settled := begun.2.2.settle begun.2.1 world.now
    (.inserted world.now world.now world.issued begun.1)
  have answered : settled.1 = .ok (identity world.issued).id := by
    rw [← here]
    exact congrArg Prod.fst inserted
  have state : settled.2.state = { world.state with entries := entry :: world.state.entries } :=
    congrArg Prod.snd inserted
  refine ⟨settled.2, rfl, ?_, ?_⟩
  · rw [state]
    refine ⟨reachable, sound, entry, ?_, ?_⟩
    · rw [State.find?_inserted rfl]
      exact if_pos here
    · intro now
      have behaves : entry.behavior = .honor latency := honors
      simp only [Entry.observe, behaves, ready]
      rfl
  · have instantly : world.now.after begun.2.1.takes = world.now := Procedure.after_zero soon
    rw [Run.begin, Scenario.check]
    simp only [made]
    rw [Procedure.alone_insert]
    simp only [setting, begun] at instantly answered
    simp only [instantly]
    rw [answered]
    rfl

/-- How a latency decides a result: it passes exactly if the record is processed by the deadline, and
then it is there with the first read after that. -/
structure DecidedBy (latency : Duration) (scenario : Scenario) (result : ScenarioResult) : Prop where
  passed_iff : result.outcome = .passed ↔
    latency.nanos ≤ scenario.buffer.nanos + scenario.pace.timeout.nanos
  inTime : latency.nanos ≤ scenario.buffer.nanos + scenario.pace.timeout.nanos →
    result.elapsed.nanos = scenario.delay.nanos + scenario.buffer.nanos +
      scenario.pace.readAt (scenario.pace.firstReadAfter (latency.nanos - scenario.buffer.nanos))
  tooLate : scenario.buffer.nanos + scenario.pace.timeout.nanos < latency.nanos →
    result.outcome = .failed (.timedOut (some .pending) scenario.pace.timeout
      (scenario.pace.restsBeforeDeadline + 1)) ∧
    result.elapsed.nanos = scenario.delay.nanos + scenario.buffer.nanos + scenario.pace.timeout.nanos

/-- A scheduled record must not be processed at once, for then its early read finds it processed. -/
theorem honest_check {wall storeWall : Instant → Timestamp} {identity : Nat → Identity}
    {scenario : Scenario} {make : Identity → Record} {world : World State}
    (bounded : scenario.Bounded) (made : scenario.record? (wall world.now) = .ok make)
    (honors : script.behaviorFor (make (identity world.issued)) = .honor latency)
    (instantly : script.readLatency = .zero) (unlimited : script.readBudget = none)
    (reachable : world.state.isReachable) (sound : world.state.poisoned = false)
    (fresh : world.state.find? (identity world.issued).id = none)
    (still : storeWall world.now = wall world.now)
    (deadlineFits : world.now + scenario.wait.nanos + scenario.pace.timeout.nanos < Instant.limit)
    (dueFits : world.now + scenario.delay.nanos + latency.nanos < Instant.limit)
    (pending : scenario.kind = .scheduled → 0 < scenario.delay.nanos + latency.nanos) :
    ∃ result after,
      (Run.begin ⟨store script storeWall, identity, wall⟩ world scenario).alone
          ⟨store script storeWall, identity, wall⟩ none world = (some (.ok result), after) ∧
      DecidedBy latency scenario result := by
  have rests : 0 < scenario.pace.interval.nanos :=
    Nat.lt_of_lt_of_le (by decide) bounded.millisecond_le_interval
  have countable := bounded.countable
  have waits := bounded.wait_nanos
  obtain ⟨inserted, now_eq, held, begins⟩ := check_inserts made honors reachable sound fresh still
    bounded.delay_of_unscheduled dueFits
  have waitFits : inserted.now + scenario.wait.nanos < Instant.limit := by
    rw [now_eq]
    exact Nat.lt_of_le_of_lt (Nat.le_add_right ..) deadlineFits
  have later : scenario.kind = .scheduled →
      inserted.now < world.now + scenario.delay.nanos + latency.nanos := by
    intro scheduled
    rw [now_eq, Nat.add_assoc]
    exact Nat.lt_add_of_pos_right (pending scheduled)
  have direct : scenario.kind ≠ .scheduled → scenario.wait.nanos = 0 := by
    intro other
    rw [waits, bounded.delay_of_unscheduled other, bounded.buffer_of_unscheduled other]
    rfl
  have prompt : (⟨store script storeWall, identity, wall⟩ : Setting State).store.Prompt
      (identity world.issued).id (State.Holds (identity world.issued).id
        (world.now + scenario.delay.nanos + latency.nanos))
      (Scenario.processedFrom (world.now + scenario.delay.nanos + latency.nanos)) :=
    store_prompt instantly unlimited
  obtain ⟨awaiting, moved, held, follows⟩ := Scenario.follow_pending scenario world.now inserted
    prompt waitFits held later direct
  rw [now_eq] at moved follows
  rw [begins, follows, moved]
  have fits : awaiting.now + scenario.pace.timeout.nanos < Instant.limit := by
    rw [moved]
    exact deadlineFits
  by_cases inTime : latency.nanos ≤ scenario.buffer.nanos + scenario.pace.timeout.nanos
  · have span : world.now + scenario.delay.nanos + latency.nanos - awaiting.now =
        latency.nanos - scenario.buffer.nanos := by
      rw [moved, waits, ← Nat.add_assoc]
      exact Nat.add_sub_add_left ..
    have short : latency.nanos - scenario.buffer.nanos ≤ scenario.pace.timeout.nanos :=
      Nat.sub_le_iff_le_add'.mpr inTime
    obtain ⟨after, passes⟩ := Scenario.await_inTime scenario world.now awaiting
      prompt fits rests countable held (by rw [span]; exact short)
    rw [span, moved] at passes
    refine ⟨_, after, passes, ⟨fun _ => inTime, fun _ => rfl⟩, fun _ => ?_, fun tooLate => ?_⟩
    · exact bounded.elapsed_nanos world.now Pace.readAt_le
    · exact absurd inTime (Nat.not_le_of_lt tooLate)
  · have tooLate := Nat.lt_of_not_le inTime
    have missed : awaiting.now + scenario.pace.timeout.nanos <
        world.now + scenario.delay.nanos + latency.nanos := by
      rw [moved, waits, ← Nat.add_assoc, Nat.add_assoc _ scenario.buffer.nanos]
      exact Nat.add_lt_add_left tooLate _
    obtain ⟨after, fails⟩ := Scenario.await_tooLate scenario world.now awaiting
      prompt fits rests countable held missed
    rw [moved] at fails
    refine ⟨_, after, fails, ⟨nofun, fun early => absurd early inTime⟩,
      fun early => absurd early inTime, fun _ => ⟨rfl, ?_⟩⟩
    exact bounded.elapsed_nanos world.now (Nat.le_refl _)

/-- Against a worker that processes every record some latency after it is due, that latency decides
whether a scenario passes, and when: with the first read of the poll that is no earlier, and at the
deadline if no read is. -/
theorem honest_worker (config : Config) (spec : Spec) (scenario : Scenario) (script : Script)
    (latency : Duration) (wall storeWall : Instant → Timestamp) (identity : Nat → Identity)
    (make : Identity → Record) (world : World State)
    (valid : config.check = .ok ()) (resolved : spec.resolve config.polling = .ok scenario)
    (made : scenario.record? (wall world.now) = .ok make)
    (honors : script.behaviorFor (make (identity world.issued)) = .honor latency)
    (instantly : script.readLatency = .zero) (unlimited : script.readBudget = none)
    (reachable : world.state.isReachable) (sound : world.state.poisoned = false)
    (fresh : world.state.find? (identity world.issued).id = none)
    (still : storeWall world.now = wall world.now)
    (deadlineFits : world.now + scenario.delay.nanos + scenario.buffer.nanos +
      scenario.pace.timeout.nanos < Instant.limit)
    (dueFits : world.now + scenario.delay.nanos + latency.nanos < Instant.limit) :
    (scenario.kind ≠ .scheduled →
      ∃ result after,
        (Run.begin ⟨store script storeWall, identity, wall⟩ world scenario).alone
            ⟨store script storeWall, identity, wall⟩ none world = (some (.ok result), after) ∧
        (result.outcome = .passed ↔ latency.nanos ≤ scenario.pace.timeout.nanos) ∧
        (latency.nanos ≤ scenario.pace.timeout.nanos →
          result.elapsed.nanos =
            min (latency.nanos ⌈/⌉ scenario.pace.interval.nanos * scenario.pace.interval.nanos)
              scenario.pace.timeout.nanos) ∧
        (scenario.pace.timeout.nanos < latency.nanos →
          result.outcome = .failed (.timedOut (some .pending) scenario.pace.timeout
            (scenario.pace.timeout.nanos ⌈/⌉ scenario.pace.interval.nanos + 1)))) ∧
    (scenario.kind = .scheduled → 0 < scenario.delay.nanos + latency.nanos →
      ∃ result after,
        (Run.begin ⟨store script storeWall, identity, wall⟩ world scenario).alone
            ⟨store script storeWall, identity, wall⟩ none world = (some (.ok result), after) ∧
        (result.outcome = .passed ↔
          latency.nanos ≤ scenario.buffer.nanos + scenario.pace.timeout.nanos) ∧
        (latency.nanos ≤ scenario.buffer.nanos →
          result.elapsed.nanos = scenario.delay.nanos + scenario.buffer.nanos) ∧
        (scenario.buffer.nanos < latency.nanos →
          latency.nanos ≤ scenario.buffer.nanos + scenario.pace.timeout.nanos →
          result.elapsed.nanos = scenario.delay.nanos + scenario.buffer.nanos +
            min ((latency.nanos - scenario.buffer.nanos) ⌈/⌉ scenario.pace.interval.nanos *
              scenario.pace.interval.nanos) scenario.pace.timeout.nanos) ∧
        (scenario.buffer.nanos + scenario.pace.timeout.nanos < latency.nanos →
          result.outcome = .failed (.timedOut (some .pending) scenario.pace.timeout
            (scenario.pace.timeout.nanos ⌈/⌉ scenario.pace.interval.nanos + 1)) ∧
          result.elapsed.nanos = scenario.delay.nanos + scenario.buffer.nanos +
            scenario.pace.timeout.nanos)) := by
  have bounded := Spec.resolve_bounded (Config.polling_checked valid) resolved
  have waits := bounded.wait_nanos
  have fits : world.now + scenario.wait.nanos + scenario.pace.timeout.nanos < Instant.limit := by
    rw [waits, ← Nat.add_assoc]
    exact deadlineFits
  have checked := honest_check bounded made honors instantly unlimited reachable sound fresh still fits
    dueFits
  constructor
  · intro unscheduled
    have delay : scenario.delay.nanos = 0 := by rw [bounded.delay_of_unscheduled unscheduled]; rfl
    have buffer : scenario.buffer.nanos = 0 := by rw [bounded.buffer_of_unscheduled unscheduled]; rfl
    obtain ⟨result, after, ends, decided⟩ := checked fun scheduled => absurd scheduled unscheduled
    obtain ⟨passed_iff, inTime, tooLate⟩ := decided
    rw [delay, buffer, Nat.zero_add, Nat.zero_add] at inTime
    rw [buffer, Nat.zero_add] at passed_iff tooLate
    exact ⟨result, after, ends, passed_iff, inTime, fun late => (tooLate late).1⟩
  · intro scheduled pending
    obtain ⟨result, after, ends, decided⟩ := checked fun _ => pending
    refine ⟨result, after, ends, decided.passed_iff, fun early => ?_, fun _ => decided.inTime,
      decided.tooLate⟩
    have inTime := decided.inTime (Nat.le_trans early (Nat.le_add_right ..))
    rw [inTime, Nat.sub_eq_zero_of_le early, Pace.firstReadAfter, zero_ceilDiv, Pace.readAt_zero]
    rfl

end

namespace Sample

def wall (now : Instant) : Timestamp := ⟨now⟩

def identity (issued : Nat) : Identity := ⟨.ofNat (issued + 1), .ofNat (issued + 1)⟩

def world : World State := ⟨0, {}, 0, []⟩

def spec : Spec := { name := "sample", kind := .scheduled }

/-- Five seconds of delay, two of buffer and up to five of polling twice a second. -/
def scenario : Scenario := spec.fill ({} : PollingConfig)

def script : Script := { behavior := .honor (.clamp 2000300000) }

end Sample

open Sample in
theorem honest_worker_just_after_buffer :
    ∃ result after,
      (Run.begin ⟨store script wall, identity, wall⟩ world scenario).alone
          ⟨store script wall, identity, wall⟩ none world = (some (.ok result), after) ∧
      result.outcome = .passed ∧ result.elapsed.nanos = 7500000000 := by
  let make (who : Identity) : Record :=
    scenario.fill (.scheduled who "E2E Scheduled" "From the future" ⟨5000000000⟩)
  have made : scenario.record? (wall world.now) = .ok make := by rfl
  obtain ⟨result, after, ends, passed_iff, _, elapsed, _⟩ :=
    (honest_worker {} spec scenario script (.clamp 2000300000) wall wall identity make world
      (by decide) (by rfl) made (by rfl) (by rfl) (by rfl) (by rfl) (by rfl) (by rfl) (by rfl)
      (by decide) (by decide)).2 rfl (by decide)
  exact ⟨result, after, ends, passed_iff.mpr (by decide), elapsed (by decide) (by decide)⟩

end Worker

end DeliveryCheck
