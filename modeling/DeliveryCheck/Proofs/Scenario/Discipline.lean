import Mathlib
import DeliveryCheck.Store.Playback
import DeliveryCheck.Proofs.Run.Checked
import DeliveryCheck.Proofs.Scenario.Phases
import DeliveryCheck.Proofs.Scenario.Timing

namespace DeliveryCheck

/-- The calls of a check: an insertion, what it answers and the reads after it. -/
structure Phases where
  inserted : Instant
  number : Nat
  record : Record
  stored : Except Error Uuid
  watch : Watch := {}

def Phases.calls (phases : Phases) (start : Instant) : List Event :=
  .inserted start phases.inserted phases.number phases.record phases.stored ::
    phases.stored.toOption.elim [] fun id => phases.watch.reads.map (Read.event id)

def WallAdvances (wall : Instant → Timestamp) : Prop :=
  ∀ earlier later : Instant, earlier ≤ later →
    (wall earlier).nanos + (later - earlier : Nat) ≤ (wall later).nanos

namespace Scenario

variable {scenario : Scenario} {start ended : Instant} {id : Uuid} {identity : Nat → Identity}
  {story : List Event} {answer : Except Error ScenarioResult}

/-- The order of the calls of a check that starts at an instant, when they start and what they answer. -/
structure Disciplined {σ : Type} (setting : Setting σ) (scenario : Scenario) (start : Instant)
    (phases : Phases) (answer : Except Error ScenarioResult) : Prop where
  made : ∃ make, scenario.record? (setting.wall start) = .ok make ∧
    phases.record = make (setting.identity phases.number)
  deliverAt_eq : phases.record.deliverAt =
    if scenario.kind = .scheduled then
      some ⟨(setting.wall start).nanos + scenario.delay.nanos⟩
    else none
  inserted_le : start ≤ phases.inserted
  of_unstored : ∀ fault, phases.stored = .error fault → phases.watch.reads = []
  early_iff : ∀ id, phases.stored = .ok id →
    (phases.watch.early.isSome ↔ scenario.kind = .scheduled)
  early_began : ∀ early ∈ phases.watch.early,
    early.began = phases.inserted ∧ phases.inserted ≤ early.ended
  of_hidden : ∀ early ∈ phases.watch.early, early.answer = .ok none →
    phases.watch.late = [] ∧ ∃ result, answer = .ok result ∧ result.outcome = .failed .notVisible
  of_early : ∀ early ∈ phases.watch.early, ∀ status, early.answer = .ok (some status) →
    status.processed → phases.watch.late = [] ∧
      ∃ result, answer = .ok result ∧ result.outcome = .failed (.processedEarly status)
  rested : ∀ early ∈ phases.watch.early, ∀ read ∈ phases.watch.late,
    early.ended + scenario.delay.nanos + scenario.buffer.nanos ≤ read.began
  due : WallAdvances setting.wall → ∀ due ∈ phases.record.deliverAt, ∀ read ∈ phases.watch.late,
    due.nanos + scenario.buffer.nanos ≤ (setting.wall read.began).nanos
  polls_iff : ∀ id, phases.stored = .ok id →
    (phases.watch.polling.isSome ↔ ∀ early ∈ phases.watch.early,
      ∃ status, early.answer = .ok (some status) ∧ status.processed = false)
  direct_began : scenario.kind ≠ .scheduled →
    ∀ polling ∈ phases.watch.polling, polling.began = phases.inserted
  concluded : ∀ polling ∈ phases.watch.polling, scenario.Concluded polling phases.watch.confirming
  polling_of_confirming : phases.watch.confirming.isSome → phases.watch.polling.isSome
  fault_last : ∀ before call behind fault, phases.calls start = before ++ call :: behind →
    call.fault? = some fault → behind = [] ∧ answer = .error fault

section

variable {wall : Timestamp} {make : Identity → Record}

theorem deliverAt_of_record? (made : scenario.record? wall = .ok make) (who : Identity) :
    (make who).deliverAt =
      if scenario.kind = .scheduled then some ⟨wall.nanos + scenario.delay.nanos⟩ else none := by
  unfold record? at made
  split at made
  next kind =>
    cases made
    rw [kind]
    rfl
  next kind =>
    cases made
    rw [kind]
    rfl
  next kind =>
    rw [if_pos kind]
    split at made
    next due found =>
      cases made
      unfold Timestamp.after? at found
      split at found
      · cases found
        rfl
      · cases found
    next => cases made

theorem last_of_refused {fault : Error} (short : scenario.delay ≤ longestWait)
    (refused : scenario.record? wall = .error fault) :
    scenario.kind = .scheduled ∧ Timestamp.last.nanos < wall.nanos + scenario.delay.nanos ∧
      fault = .scenario (.spec scenario.name (.delayOutOfRange scenario.delay)) := by
  unfold record? at refused
  split at refused
  · cases refused
  · cases refused
  next kind =>
    split at refused
    · cases refused
    next missing =>
      cases refused
      refine ⟨kind, ?_, rfl⟩
      unfold Timestamp.after? at missing
      split at missing
      · cases missing
      next beyond =>
        have most : longestWait.nanos ≤ Timestamp.longestDelay := by decide
        have writable := Nat.le_trans short most
        exact Int.lt_of_not_ge fun inside => beyond ⟨writable, inside⟩

theorem fault_last_of_explains {own : Error → Prop} {before behind : List Event} {call : Event}
    {fault : Error} (explains : Event.Explains own story (some answer))
    (split : story.filter Event.isCall = before ++ call :: behind) (fails : call.fault? = some fault) :
    behind = [] ∧ answer = .error fault := by
  rcases explains with ⟨succeed, _⟩ | ⟨other, last, decides⟩
  · have listed : call ∈ story.filter Event.isCall := by simp [split]
    rw [succeed call (List.mem_of_mem_filter listed)] at fails
    cases fails
  · obtain ⟨final, rfl⟩ := last.filter_isCall.is_last split fails
    exact ⟨final, decides answer rfl⟩

theorem due_of_rested {wall : Instant → Timestamp} {start seen began : Nat}
    (advances : WallAdvances wall) (later : start ≤ seen)
    (rested : seen + scenario.delay.nanos + scenario.buffer.nanos ≤ began) :
    (wall start).nanos + scenario.delay.nanos + scenario.buffer.nanos ≤ (wall began).nanos := by
  have ordered : start ≤ began := by omega
  have onward := advances start began ordered
  omega

theorem Watched.disciplined {σ : Type} {setting : Setting σ} {inserted : Instant} {number : Nat}
    {watch : Watch} {verdict : Except Error Outcome} (delay : scenario.delay ≤ longestWait)
    (buffer : scenario.buffer ≤ longestWait)
    (made : scenario.record? (setting.wall start) = .ok make) (later : start ≤ inserted)
    (watched : scenario.Watched inserted watch ended verdict)
    (same : answer = verdict.map (scenario.result start id · ended))
    (fault_last : ∀ before call behind fault,
      (Phases.mk inserted number (make (setting.identity number)) (.ok id) watch).calls start =
        before ++ call :: behind →
      call.fault? = some fault → behind = [] ∧ answer = .error fault) :
    Disciplined setting scenario start
      ⟨inserted, number, make (setting.identity number), .ok id, watch⟩ answer := by
  obtain ⟨exact, short⟩ := wait_nanos_of_le delay buffer
  have rested : ∀ early ∈ watch.early, ∀ read ∈ watch.late,
      early.ended + scenario.delay.nanos + scenario.buffer.nanos ≤ read.began := by
    intro early present read member
    rw [Nat.add_assoc, ← exact]
    exact watched.rested short early present read member
  exact
    { made := ⟨make, made, rfl⟩
      deliverAt_eq := deliverAt_of_record? made _
      inserted_le := later
      of_unstored := nofun
      early_iff := fun _ _ => watched.early_iff
      early_began := watched.early_began
      of_hidden := by
        intro early present hidden
        obtain ⟨silent, rfl⟩ := watched.of_hidden early present hidden
        exact ⟨silent, _, same, rfl⟩
      of_early := by
        intro early present status seen processed
        obtain ⟨silent, rfl⟩ := watched.of_early early present status seen processed
        exact ⟨silent, _, same, rfl⟩
      rested := rested
      due := by
        intro advances due set read member
        have scheduled : scenario.kind = .scheduled := by
          by_contra unscheduled
          rw [deliverAt_of_record? made, if_neg unscheduled] at set
          cases set
        rw [deliverAt_of_record? made, if_pos scheduled] at set
        cases set
        obtain ⟨early, present⟩ := Option.isSome_iff_exists.mp (watched.early_iff.mpr scheduled)
        obtain ⟨_, read_later⟩ := watched.early_began early present
        exact due_of_rested advances (Nat.le_trans later read_later) (rested early present read member)
      polls_iff := fun _ _ => watched.polls_iff
      direct_began := watched.direct_began
      concluded := watched.concluded
      polling_of_confirming := watched.polling_of_confirming
      fault_last := fault_last }

theorem disciplined_of_unstored {σ : Type} {setting : Setting σ} {inserted : Instant} {number : Nat}
    {fault : Error} (made : scenario.record? (setting.wall start) = .ok make)
    (later : start ≤ inserted) :
    Disciplined setting scenario start
      ⟨inserted, number, make (setting.identity number), .error fault, {}⟩ (.error fault) where
  made := ⟨make, made, rfl⟩
  deliverAt_eq := deliverAt_of_record? made _
  inserted_le := later
  of_unstored _ _ := rfl
  early_iff := nofun
  early_began := nofun
  of_hidden := nofun
  of_early := nofun
  rested := nofun
  due := nofun
  polls_iff := nofun
  direct_began := nofun
  concluded := nofun
  polling_of_confirming := nofun
  fault_last before call behind other split fails := by
    rcases List.cons_eq_append_iff.mp split with ⟨rfl, same⟩ | ⟨_, _, same⟩
    · cases same
      cases fails
      exact ⟨rfl, rfl⟩
    · simp [Except.toOption] at same

theorem check_disciplined {σ : Type} {setting : Setting σ} (delay : scenario.delay ≤ longestWait)
    (buffer : scenario.buffer ≤ longestWait)
    (course : (scenario.check start (setting.wall start)).Course setting.identity start story ended
      (some answer)) :
    (∃ fault, scenario.record? (setting.wall start) = .error fault ∧
      story.filter Event.isCall = [] ∧ answer = .error fault) ∨
    ∃ phases, Disciplined setting scenario start phases answer ∧
      story.filter Event.isCall = phases.calls start := by
  rcases check_goes course with
    ⟨fault, refused, rfl, rfl⟩ | ⟨make, instant, number, made, later, ⟨fault, rfl, rfl⟩ | goes⟩
  · exact .inl ⟨fault, refused, rfl, rfl⟩
  · exact .inr ⟨_, disciplined_of_unstored made later, rfl⟩
  · obtain ⟨id, watch, verdict, watched, told, same⟩ := goes
    refine .inr ⟨_, watched.disciplined delay buffer made later same ?_, told⟩
    intro before call behind fault split
    exact fault_last_of_explains (check_explains course) (told.trans split)

end

/-- The calls of a check from its start on, and how it ends unless it is cut off. Near the end of the
calendar the delivery time cannot be written and nothing is called; otherwise the calls are those of its
phases, as far as it gets. -/
inductive InOrder {σ : Type} (setting : Setting σ) (scenario : Scenario) (start : Instant)
    (calls : List Event) (ended : Option (Except Error ScenarioResult)) : Prop where
  | unwritable (scheduled : scenario.kind = .scheduled)
    (beyond : Timestamp.last.nanos < (setting.wall start).nanos + scenario.delay.nanos)
    (uncalled : calls = [])
    (fails : ∀ answer, ended = some answer →
      answer = .error (.scenario (.spec scenario.name (.delayOutOfRange scenario.delay))))
  | disciplined {phases answer} (disciplined : Disciplined setting scenario start phases answer)
    (begun : calls <+: phases.calls start)
    (finished : ∀ finish, ended = some finish → calls = phases.calls start ∧ finish = answer)

theorem check_inOrder {σ : Type} {setting : Setting σ} {spec : Spec} {polling : PollingConfig}
    {result : Option (Except Error ScenarioResult)}
    (resolved : spec.resolve polling = .ok scenario)
    (course : (scenario.check start (setting.wall start)).Course setting.identity start story ended
      result) : InOrder setting scenario start (story.filter Event.isCall) result := by
  obtain ⟨rfl, _, short⟩ := Spec.resolve_ok resolved
  have delay : (spec.fill polling).delay ≤ longestWait :=
    short ("delay_secs", spec.delay polling) (by simp [Spec.waits])
  have buffer : (spec.fill polling).buffer ≤ longestWait :=
    short ("buffer_secs", spec.buffer polling) (by simp [Spec.waits])
  -- A course that is cut off is the beginning of one that comes to its end.
  obtain ⟨rest, finish, answer, whole, ends⟩ := course.exists_rest
  rcases check_disciplined delay buffer whole with
    ⟨fault, refused, silent, rfl⟩ | ⟨phases, disciplined, told⟩
  · obtain ⟨scheduled, beyond, rfl⟩ := last_of_refused delay refused
    rw [List.filter_append] at silent
    exact .unwritable scheduled beyond (List.append_eq_nil_iff.mp silent).1
      fun answer same => (ends answer same).2.symm
  · rw [List.filter_append] at told
    refine .disciplined disciplined ⟨_, told⟩ fun value same => ?_
    obtain ⟨rfl, rfl⟩ := ends value same
    exact ⟨by rw [← told, List.filter_nil, List.append_nil], rfl⟩

/-- Every check of a resolved scenario makes its calls in their order. -/
theorem calls_inOrder {σ : Type} (setting : Setting σ) (limit : Option Instant) (spec : Spec)
    (polling : PollingConfig) (scenario : Scenario) (world : World σ)
    (resolved : spec.resolve polling = .ok scenario) :
    let ran := (Run.begin setting world scenario).alone setting limit world
    ∃ calls, ran.2.calls = world.calls ++ calls ∧ InOrder setting scenario world.now calls ran.1 := by
  obtain ⟨story, course, history⟩ :=
    Procedure.alone_course setting limit (Run.begin setting world scenario) world
  exact ⟨_, World.calls_append history, check_inOrder resolved course⟩

namespace Sample

def laterSpec : Spec := { name := "later", kind := .scheduled }

def laterScenario : Scenario := laterSpec.fill {}

def slowSetting : Setting Playback.State :=
  ⟨Playback.store, fun issued => ⟨.ofNat (issued + 1), .ofNat (issued + 1)⟩, fun now => ⟨now⟩⟩

/-- The early read takes a minute and still finds the record pending. -/
def slowWorld : World Playback.State :=
  ⟨0, { insertions := [], scripts := [[⟨.ofSeconds 60, .ok (some .pending)⟩,
    { reply := .ok (some ⟨true, 0, none⟩) }]] }, 0, []⟩

end Sample

open Sample in
theorem calls_inOrder_slow_read :
    laterSpec.resolve {} = .ok laterScenario ∧
      ∃ phases answer, Disciplined slowSetting laterScenario 0 phases answer ∧
        (phases.calls 0).tail =
          [.read 0 60000000000 (.ofNat 1) (.ok (some .pending)),
            .read 67000000000 67000000000 (.ofNat 1) (.ok (some ⟨true, 0, none⟩)),
            .read 67000000000 67000000000 (.ofNat 1) (.ok (some ⟨true, 0, none⟩))] := by
  have resolved : laterSpec.resolve {} = .ok laterScenario := by rfl
  have made : laterScenario.record? (slowSetting.wall slowWorld.now) = .ok fun who =>
      laterScenario.fill (.scheduled who "E2E Scheduled" "From the future" ⟨5000000000⟩) := by rfl
  have passes : ((Run.begin slowSetting slowWorld laterScenario).alone slowSetting none slowWorld).1 =
      some (.ok ⟨"later", .scheduled, .ofNat 1, .passed, .clamp 67000000000⟩) := by
    rw [Run.begin, check]
    simp only [made]
    cbv
  refine ⟨resolved, ?_⟩
  obtain ⟨calls, told, inOrder⟩ :=
    calls_inOrder slowSetting none laterSpec {} laterScenario slowWorld resolved
  cases inOrder with
  | unwritable _ beyond => exact absurd beyond (by decide)
  | @disciplined phases answer disciplined _ finished =>
    obtain ⟨rfl, _⟩ := finished _ passes
    refine ⟨phases, answer, disciplined, ?_⟩
    have same : phases.calls 0 = _ := told.symm
    rw [same, Run.begin, check]
    simp only [made]
    cbv

end Scenario

theorem Run.Checked.Genuine.inOrder {σ : Type} {setting : Setting σ} {check : Run.Checked} {spec : Spec}
    {polling : PollingConfig} (genuine : check.Genuine setting)
    (resolved : spec.resolve polling = .ok check.scenario) :
    ∃ start, Scenario.InOrder setting check.scenario start check.calls check.answer := by
  obtain ⟨start, ended, course⟩ := genuine
  exact ⟨start, Scenario.check_inOrder resolved course⟩

end DeliveryCheck
