import DeliveryCheck.Proofs.Worker.Honest
import DeliveryCheck.Proofs.Worker.Shared

namespace DeliveryCheck

def ScenarioResult.anonymous (result : ScenarioResult) : ScenarioResult := { result with id := .nil }

def ScenarioResult.EndsAs (verdict : ScenarioResult) (answer : Except Error ScenarioResult) : Prop :=
  ∃ result, answer = .ok result ∧ result.anonymous = verdict

def Scenario.horizon (scenario : Scenario) (latency : Duration) : Nat :=
  scenario.wait.nanos + scenario.pace.timeout.nanos + 3 * latency.nanos

/-- Whether a poll whose reads take a given time each comes to its deadline before it has made more reads
than it can count. -/
def Pace.IsCountable (pace : Pace) (latency : Duration) : Prop :=
  pace.timeout.nanos ≤ (Poll.mostReads - 1) * (latency.nanos + pace.interval.nanos)

theorem Scenario.Bounded.isCountable {scenario : Scenario} (bounded : scenario.Bounded)
    (latency : Duration) : scenario.pace.IsCountable latency := by
  apply Nat.le_trans bounded.timeout_le_rests
  rw [Nat.mul_comm]
  exact Nat.mul_le_mul_left _ (Nat.le_add_left ..)

theorem Poll.step_since (start begun ended since : Nat) (interval : Duration) (last : Option Status)
    (count : Nat) (goal : Status → Bool) (status : Option Status) :
    (Poll.mk (start + begun) (start + ended) interval last count).step goal status (start + since) =
      if status.any goal then .over ⟨true, status.or last, count + 1, .clamp (since - begun)⟩
      else if ended ≤ since then .over ⟨false, status.or last, count + 1, .clamp (since - begun)⟩
      else
        .rest (.clamp (min interval.nanos (ended - since)))
          ⟨start + begun, start + ended, interval, status.or last, count + 1⟩ := by
  simp only [step, Poll.count, outcome, untilNext, Instant.elapsed, Nat.add_sub_add_left,
    Nat.add_le_add_iff_left]

namespace Worker

def Behavior.latency : Behavior → Duration
  | .honor latency | .flapping latency => latency
  | .eager | .stalled | .invisible | .failing _ => .zero

def Script.treatment (script : Script) (kind : Kind) : Behavior :=
  if kind = .broadcast then script.broadcast.getD script.behavior else script.behavior

/-- Every instant that a check comes upon can be written if it starts at a given one. -/
structure Fits (script : Script) (wall : Instant → Timestamp) (start : Instant) (scenario : Scenario) :
    Prop where
  dated : ∃ make, scenario.record? (wall start) = .ok make
  timed : start + scenario.horizon script.readLatency < Instant.limit
  treated : start + scenario.delay.nanos + (script.treatment scenario.kind).latency.nanos <
    Instant.limit

structure Origin where
  start : Instant
  wall : Instant → Timestamp
  who : Identity

structure Origin.Suits (script : Script) (scenario : Scenario) (origin : Origin) : Prop where
  fits : Fits script origin.wall origin.start scenario
  personal : origin.who.recipient ≠ Uuid.everybody

/-- An entry as its late reads have left it, for a record inserted at a given time and due a delay
later. -/
structure Entry.Since (start : Instant) (delay lateReads : Nat) (behavior : Behavior) (entry : Entry) :
    Prop where
  inserted_eq : entry.inserted = start
  due_eq : entry.due = start + delay
  lateReads_eq : entry.lateReads = lateReads
  behavior_eq : entry.behavior = behavior

theorem Entry.observe_since (behavior : Behavior) (delay lateReads since : Nat) :
    ∃ status reads, ∀ (start : Instant) (entry : Entry),
      Entry.Since start delay lateReads behavior entry →
      start + delay + behavior.latency.nanos < Instant.limit →
      ∃ later, entry.observe (start + since) = some (status, later) ∧
        Entry.Since start delay reads behavior later := by
  have constant (status : Option Status) (shows : ∀ entry : Entry, entry.behavior = behavior →
      ∀ now, entry.observe now = some (status, entry)) : ∃ status reads,
        ∀ (start : Instant) (entry : Entry), Entry.Since start delay lateReads behavior entry →
          start + delay + behavior.latency.nanos < Instant.limit →
          ∃ later, entry.observe (start + since) = some (status, later) ∧
            Entry.Since start delay reads behavior later :=
    ⟨status, lateReads, fun start entry kept _ => ⟨entry, shows entry kept.behavior_eq _, kept⟩⟩
  cases behavior with
  | honor latency =>
    refine ⟨some (statusOf (delay + latency.nanos ≤ since)), lateReads, fun start entry kept fits => ?_⟩
    have ready : entry.due.after? latency = some (start + delay + latency.nanos) := by
      rw [kept.due_eq]
      exact Instant.after?_eq_some_iff.mpr ⟨fits, rfl⟩
    refine ⟨entry, ?_, kept⟩
    rw [observe, kept.behavior_eq]
    simp only [ready, Option.map_some, Nat.add_assoc, Nat.add_le_add_iff_left]
  | eager => exact constant (some (statusOf true)) fun entry treats now => by rw [observe, treats]
  | stalled => exact constant (some (statusOf false)) fun entry treats now => by rw [observe, treats]
  | invisible => exact constant none fun entry treats now => by rw [observe, treats]
  | failing reason =>
    exact constant (some (failedStatus reason)) fun entry treats now => by rw [observe, treats]
  | flapping latency =>
    have ready (start : Instant) (entry : Entry) (inserted : entry.inserted = start)
        (fits : start + delay + latency.nanos < Instant.limit) :
        entry.inserted.after? latency = some (start + latency.nanos) := by
      rw [inserted]
      refine Instant.after?_eq_some_iff.mpr ⟨Nat.lt_of_le_of_lt ?_ fits, rfl⟩
      exact Nat.add_le_add_right (Nat.le_add_right ..) _
    by_cases late : latency.nanos ≤ since
    · refine ⟨some (statusOf (lateReads = 0)), lateReads + 1, fun start entry kept fits => ?_⟩
      refine ⟨{ entry with lateReads := entry.lateReads + 1 }, ?_, ?_⟩
      · rw [observe, kept.behavior_eq]
        simp only [ready start entry kept.inserted_eq fits, Option.map_some, Nat.add_le_add_iff_left,
          late, if_true, kept.lateReads_eq]
      · exact ⟨kept.inserted_eq, kept.due_eq, congrArg Nat.succ kept.lateReads_eq, kept.behavior_eq⟩
    · refine ⟨some (statusOf false), lateReads, fun start entry kept fits => ⟨entry, ?_, kept⟩⟩
      rw [observe, kept.behavior_eq]
      simp only [ready start entry kept.inserted_eq fits, Option.map_some, Nat.add_le_add_iff_left,
        late, if_false]

/-- What is left of a check a time after its start leads to one verdict, wherever that was. -/
def Uniform (script : Script) (scenario : Scenario) (since lateReads : Nat)
    (rest : Origin → Procedure (Except Error ScenarioResult)) : Prop :=
  ∃ verdict : ScenarioResult, ∀ origin : Origin, origin.Suits script scenario → ∀ entry,
    Entry.Since origin.start scenario.delay.nanos lateReads (script.treatment scenario.kind) entry →
    Leads script origin.wall origin.who verdict.EndsAs (rest origin) (origin.start + since) (some entry)

section

variable {script : Script} {scenario : Scenario} {since lateReads : Nat}

theorem uniform_enter (mark : Origin → Mark) {rest : Origin → Procedure (Except Error ScenarioResult)}
    (onward : Uniform script scenario since lateReads rest) :
    Uniform script scenario since lateReads fun origin => .enter (mark origin) (rest origin) := onward

theorem uniform_pause (length : Duration)
    {rest : Origin → Instant → Procedure (Except Error ScenarioResult)}
    (soon : since + length.nanos ≤ scenario.horizon script.readLatency)
    (onward : Uniform script scenario (since + length.nanos) lateReads fun origin =>
      rest origin (origin.start + (since + length.nanos))) :
    Uniform script scenario since lateReads fun origin => .pause length (rest origin) := by
  obtain ⟨verdict, leads⟩ := onward
  refine ⟨verdict, fun origin suits entry kept => ?_⟩
  have fits : origin.start + since + length.nanos < Instant.limit := by
    rw [Nat.add_assoc]
    exact Nat.lt_of_le_of_lt (Nat.add_le_add_left soon _) suits.fits.timed
  rw [Leads, Instant.after_of_lt fits, Nat.add_assoc]
  exact leads origin suits entry kept

theorem uniform_read
    {rest : Origin → Instant → Except Error (Option Status) → Procedure (Except Error ScenarioResult)}
    (soon : since + script.readLatency.nanos ≤ scenario.horizon script.readLatency)
    (onward : ∀ status reads,
      Uniform script scenario (since + script.readLatency.nanos) reads fun origin =>
        rest origin (origin.start + (since + script.readLatency.nanos)) (.ok status)) :
    Uniform script scenario since lateReads fun origin => .read origin.who.id (rest origin) := by
  obtain ⟨status, reads, sees⟩ := Entry.observe_since (script.treatment scenario.kind)
    scenario.delay.nanos lateReads (since + script.readLatency.nanos)
  obtain ⟨verdict, leads⟩ := onward status reads
  refine ⟨verdict, fun origin suits entry kept => ?_⟩
  have fits : origin.start + since + script.readLatency.nanos < Instant.limit := by
    rw [Nat.add_assoc]
    exact Nat.lt_of_le_of_lt (Nat.add_le_add_left soon _) suits.fits.timed
  obtain ⟨later, observed, keeps⟩ := sees origin.start entry kept suits.fits.treated
  rw [Leads, Instant.after_of_lt fits, Nat.add_assoc]
  exact ⟨rfl, status, later, observed, leads origin suits later keeps⟩

theorem uniform_resolve (outcome : Outcome) :
    Uniform script scenario since lateReads fun origin =>
      scenario.resolve origin.start origin.who.id outcome (origin.start + since) := by
  refine ⟨⟨scenario.name, scenario.kind, .nil, outcome, .clamp since⟩, fun origin _ _ _ => ?_⟩
  refine ⟨_, rfl, ?_⟩
  rw [Scenario.result, Instant.elapsed, Nat.add_sub_cancel_left]
  rfl

theorem uniform_confirm
    (soon : since + script.readLatency.nanos ≤ scenario.horizon script.readLatency) :
    Uniform script scenario since lateReads fun origin =>
      scenario.confirm origin.start origin.who.id :=
  uniform_read soon fun status _ => uniform_resolve (Scenario.confirmed status)

theorem uniform_settle (outcome : PollOutcome)
    (soon : since + script.readLatency.nanos ≤ scenario.horizon script.readLatency) :
    Uniform script scenario since lateReads fun origin =>
      scenario.settle origin.start origin.who.id (origin.start + since) (.ok outcome) := by
  simp only [Scenario.settle]
  split
  · exact uniform_confirm soon
  · exact uniform_resolve _

theorem uniform_turn {begun ended : Nat} (last : Option Status) (count left : Nat)
    (soon : since + 2 * script.readLatency.nanos ≤ scenario.horizon script.readLatency)
    (onward : since + script.readLatency.nanos < ended → ∀ (status : Option Status) reads,
      Uniform script scenario (since + script.readLatency.nanos) reads fun origin =>
        .pause
          (.clamp (min scenario.pace.interval.nanos (ended - (since + script.readLatency.nanos))))
          fun _ => Poll.observe Status.processed origin.who.id
            (scenario.settle origin.start origin.who.id) left
            ⟨origin.start + begun, origin.start + ended, scenario.pace.interval, status.or last,
              count + 1⟩) :
    Uniform script scenario since lateReads fun origin =>
      Poll.observe Status.processed origin.who.id (scenario.settle origin.start origin.who.id)
        (left + 1)
        ⟨origin.start + begun, origin.start + ended, scenario.pace.interval, last, count⟩ := by
  unfold Poll.observe
  refine uniform_read (by omega) fun status reads => ?_
  simp only [Poll.step_since]
  by_cases satisfied : status.any Status.processed
  · simp only [satisfied, if_true]
    exact uniform_settle _ (by omega)
  · by_cases late : ended ≤ since + script.readLatency.nanos
    · simp only [satisfied, late, if_true]
      exact uniform_settle _ (by omega)
    · simp only [satisfied, late]
      exact onward (Nat.lt_of_not_le late) status reads

theorem uniform_observe {begun ended : Nat} (last : Option Status) (count left : Nat)
    (early : since ≤ ended)
    (enough : ended ≤ since + left * (script.readLatency.nanos + scenario.pace.interval.nanos))
    (soon : ended + 2 * script.readLatency.nanos ≤ scenario.horizon script.readLatency) :
    Uniform script scenario since lateReads fun origin =>
      Poll.observe Status.processed origin.who.id (scenario.settle origin.start origin.who.id)
        (left + 1)
        ⟨origin.start + begun, origin.start + ended, scenario.pace.interval, last, count⟩ := by
  induction left generalizing since lateReads last count with
  | zero =>
    refine uniform_turn last count 0 (by omega) fun unfinished => ?_
    rw [Nat.zero_mul] at enough
    omega
  | succ left ih =>
    refine uniform_turn last count (left + 1) (by omega) fun unfinished status reads => ?_
    obtain ⟨inTime, rested⟩ := Poll.rest_nanos scenario.pace.interval unfinished
    rw [Nat.add_one_mul] at enough
    refine uniform_pause _ (by omega) ?_
    exact ih (status.or last) (count + 1) (by omega) (by omega)

theorem Uniform.congr {rest other : Origin → Procedure (Except Error ScenarioResult)}
    (uniform : Uniform script scenario since lateReads rest)
    (same : ∀ origin, origin.Suits script scenario → other origin = rest origin) :
    Uniform script scenario since lateReads other := by
  obtain ⟨verdict, leads⟩ := uniform
  refine ⟨verdict, fun origin suits entry kept => ?_⟩
  rw [same origin suits]
  exact leads origin suits entry kept

theorem uniform_await (countable : scenario.pace.IsCountable script.readLatency)
    (soon : since + scenario.pace.timeout.nanos + 2 * script.readLatency.nanos ≤
      scenario.horizon script.readLatency) :
    Uniform script scenario since lateReads fun origin =>
      scenario.await origin.start origin.who.id (origin.start + since) := by
  have polls : Uniform script scenario since lateReads fun origin =>
      Poll.observe Status.processed origin.who.id (scenario.settle origin.start origin.who.id)
        Poll.mostReads
        ⟨origin.start + since, origin.start + (since + scenario.pace.timeout.nanos),
          scenario.pace.interval, none, 0⟩ :=
    uniform_observe none 0 (Poll.mostReads - 1) (Nat.le_add_right _ _)
      (Nat.add_le_add_left countable since) soon
  refine uniform_enter _ (polls.congr fun origin suits => ?_)
  have fits : origin.start + since + scenario.pace.timeout.nanos < Instant.limit := by
    rw [Nat.add_assoc]
    exact Nat.lt_of_le_of_lt
      (Nat.add_le_add_left (Nat.le_trans (Nat.le_add_right ..) soon) _) suits.fits.timed
  have deadline : (origin.start + since).after? scenario.pace.timeout =
      some (origin.start + (since + scenario.pace.timeout.nanos)) :=
    Instant.after?_eq_some_iff.mpr ⟨fits, (Nat.add_assoc ..).symm⟩
  simp only [Poll.run, Poll.start, deadline]

theorem uniform_checkEarly (countable : scenario.pace.IsCountable script.readLatency) :
    Uniform script scenario 0 lateReads fun origin =>
      scenario.checkEarly origin.start origin.who.id := by
  have horizon : scenario.horizon script.readLatency =
      scenario.wait.nanos + scenario.pace.timeout.nanos + 3 * script.readLatency.nanos := rfl
  refine uniform_read (by omega) fun status reads => ?_
  rcases status with _ | status
  · exact uniform_resolve _
  · dsimp only
    split
    · exact uniform_resolve _
    · exact uniform_enter _ (uniform_pause scenario.wait (by omega)
        (uniform_await countable (by omega)))

theorem uniform_follow (countable : scenario.pace.IsCountable script.readLatency) :
    Uniform script scenario 0 lateReads fun origin =>
      scenario.follow origin.start origin.who.id origin.start := by
  have awaits : Uniform script scenario 0 lateReads fun origin =>
      scenario.await origin.start origin.who.id origin.start :=
    uniform_await countable (by unfold Scenario.horizon; omega)
  refine uniform_enter _ ?_
  cases scenario.kind with
  | scheduled => exact uniform_checkEarly countable
  | immediate | broadcast => exact awaits

theorem treatment_of_record? {wall : Timestamp} {make : Identity → Record} {who : Identity}
    (made : scenario.record? wall = .ok make) (personal : who.recipient ≠ Uuid.everybody) :
    script.behaviorFor (make who) = script.treatment scenario.kind := by
  unfold Scenario.record? at made
  split at made
  next kind =>
    cases made
    simp [Script.behaviorFor, Script.treatment, Record.isBroadcast, Scenario.fill, Record.immediate,
      kind, personal]
  next kind =>
    cases made
    simp [Script.behaviorFor, Script.treatment, Record.isBroadcast, Scenario.fill, Record.broadcast,
      kind]
  next kind =>
    split at made
    next =>
      cases made
      simp [Script.behaviorFor, Script.treatment, Record.isBroadcast, Scenario.fill, Record.scheduled,
        Record.immediate, kind, personal]
    next => cases made

theorem check_uniform (script : Script) (undelayed : scenario.kind ≠ .scheduled → scenario.delay = .zero)
    (countable : scenario.pace.IsCountable script.readLatency) :
    ∃ verdict : ScenarioResult, ∀ origin : Origin, origin.Suits script scenario →
      Leads script origin.wall origin.who verdict.EndsAs
        (scenario.check origin.start (origin.wall origin.start)) origin.start none := by
  have follows : Uniform script scenario 0 0 fun origin =>
      scenario.follow origin.start origin.who.id origin.start := uniform_follow countable
  obtain ⟨verdict, leads⟩ := follows
  refine ⟨verdict, fun origin suits => ?_⟩
  obtain ⟨make, made⟩ := suits.fits.dated
  have soon : origin.start < Instant.limit := Nat.lt_of_le_of_lt (Nat.le_add_right ..) suits.fits.timed
  rw [Scenario.check, made]
  simp only [Leads, Procedure.after_zero soon]
  have early : origin.start + scenario.delay.nanos < Instant.limit :=
    Nat.lt_of_le_of_lt (Nat.le_add_right ..) suits.fits.treated
  have due := (State.due?_record? made undelayed origin.start origin.who).resolve_right
    fun late => Nat.not_le_of_lt early late.2
  refine ⟨State.id_of_record? made _, _, State.entryFor?_eq_some_iff.mpr ⟨_, due, rfl⟩,
    leads origin suits _ ?_⟩
  exact ⟨rfl, rfl, rfl, treatment_of_record? made suits.personal⟩

end

end Worker

end DeliveryCheck
