import DeliveryCheck.Proofs.Procedure.Timely
import DeliveryCheck.Proofs.Scenario.Discipline

namespace DeliveryCheck

namespace Spec

variable {polling : PollingConfig} {specs : List Spec} {only : List String}
  {scenarios : List Scenario}

theorem resolves_of_mem (resolved : resolveEach polling specs = .ok scenarios) :
    ∀ scenario ∈ scenarios, ∃ spec ∈ specs, spec.resolve polling = .ok scenario := by
  induction specs generalizing scenarios with
  | nil =>
    cases resolved
    simp
  | cons spec rest ih =>
    rw [resolveEach] at resolved
    cases own : spec.resolve polling with
    | error fault => simp [own, Bind.bind, Except.bind] at resolved
    | ok scenario =>
      cases others : resolveEach polling rest with
      | error fault => simp [own, others, Bind.bind, Except.bind] at resolved
      | ok following =>
        have same : scenario :: following = scenarios := by
          simpa [own, others, Bind.bind, Except.bind, pure, Except.pure] using resolved
        subst same
        refine List.forall_mem_cons.mpr ⟨⟨spec, List.mem_cons_self .., own⟩, ?_⟩
        intro other member
        obtain ⟨spec, listed, resolves⟩ := ih others other member
        exact ⟨spec, List.mem_cons_of_mem _ listed, resolves⟩

theorem resolveAll_bounded (checked : polling.Checked)
    (resolved : resolveAll specs polling only = .ok scenarios) :
    ∀ scenario ∈ scenarios, scenario.Bounded := by
  unfold resolveAll at resolved
  dsimp only at resolved
  split at resolved
  · cases resolved
  · intro scenario member
    obtain ⟨_, _, resolves⟩ := resolves_of_mem resolved scenario member
    exact resolve_bounded checked resolves

end Spec

namespace Instant

theorem limit_le_of_after?_eq_none {start : Instant} {length : Duration}
    (missing : start.after? length = none) : limit ≤ start + length.nanos := by
  unfold after? at missing
  split at missing
  · cases missing
  · exact Nat.le_of_not_lt ‹_›

theorem limit_le_of_after {start : Instant} {length : Duration} {more : Nat}
    (beyond : limit ≤ start.after length + more) : limit ≤ start + length.nanos + more := by
  by_cases fits : start + length.nanos < limit
  · rwa [after_of_lt fits] at beyond
  · exact Nat.le_trans (Nat.le_of_not_lt fits) (Nat.le_add_right ..)

end Instant

namespace Scenario

variable {scenario : Scenario} {now start inserted ended : Instant} {id : Uuid}
  {identity : Nat → Identity} {story : List Event} {fault : Error}

theorem Bounded.budget_nanos (bounded : scenario.Bounded) :
    scenario.budget.nanos = scenario.delay.nanos + scenario.buffer.nanos +
      scenario.pace.timeout.nanos + scenario.pace.interval.nanos := by
  have timeout : scenario.pace.timeout.nanos ≤ longestWait.nanos := bounded.timeout_le
  have interval : scenario.pace.interval.nanos ≤ longestWait.nanos := bounded.interval_le
  have delay : scenario.delay.nanos ≤ longestWait.nanos := bounded.delay_le
  have buffer : scenario.buffer.nanos ≤ longestWait.nanos := bounded.buffer_le
  have most : 4 * longestWait.nanos ≤ Duration.limit := by decide
  change (scenario.wait + (scenario.pace.timeout + scenario.pace.interval)).nanos = _
  rw [Duration.nanos_add, Duration.nanos_add, bounded.wait_nanos]
  omega

theorem Awaited.refused_of_succeed {reads : List Read} {result : Except Error PollOutcome}
    {confirming : Option Read} (bounded : scenario.Bounded)
    (awaited : scenario.Awaited now reads result confirming ended (.error fault))
    (succeed : ∀ read ∈ reads ++ confirming.toList, ∀ other, ¬ read.Failed other) :
    reads = [] ∧ confirming = none ∧ ended = now ∧
      fault = .config (.timeoutOutOfRange scenario.pace.timeout) ∧
      Instant.limit ≤ now + scenario.pace.timeout.nanos := by
  generalize fails : Except.error fault = verdict at awaited
  cases awaited with
  | refused refused =>
    cases fails
    obtain ⟨missing, rfl⟩ := Poll.start_error refused
    exact ⟨rfl, rfl, rfl, rfl, Instant.limit_le_of_after?_eq_none missing⟩
  | failed begun trail =>
    have countable : reads.length ≤ Poll.mostReads :=
      Nat.le_of_lt_succ (bounded.reads_lt begun trail)
    obtain ⟨earlier, last, rfl, _, _, ⟨other, failed, _⟩ | ⟨_, _, same, _⟩⟩ :=
      trail.finished countable
    · exact absurd failed (succeed last (by simp) other)
    · cases same
  | timedOut => cases fails
  | @confirmed _ _ finish _ ended answer =>
    cases answer with
    | ok status => cases fails
    | error other => exact absurd rfl (succeed ⟨finish, ended, .error other⟩ (by simp) other)

theorem Watched.refused_of_succeed {watch : Watch} (id : Uuid) (bounded : scenario.Bounded)
    (watched : scenario.Watched inserted watch ended (.error fault))
    (succeed : ∀ read ∈ watch.reads, ∀ other, ¬ read.Failed other) :
    fault = .config (.timeoutOutOfRange scenario.pace.timeout) ∧ inserted ≤ ended ∧
      Instant.limit ≤
        inserted + Event.storeTime ended (watch.reads.map (Read.event id)) + scenario.wait.nanos +
          scenario.pace.timeout.nanos := by
  generalize fails : Except.error fault = verdict at watched
  cases watched with
  | direct _ awaited =>
    subst fails
    obtain ⟨rfl, rfl, rfl, rfl, beyond⟩ :=
      awaited.refused_of_succeed bounded (by simpa [Watch.reads, Watch.late] using succeed)
    refine ⟨rfl, Nat.le_refl _, Nat.le_trans beyond ?_⟩
    apply Nat.add_le_add_right
    rw [Nat.add_assoc]
    exact Nat.le_add_right ..
  | @failed ended other =>
    exact absurd rfl (succeed ⟨inserted, ended, .error other⟩ (by simp [Watch.reads]) other)
  | hidden | early => cases fails
  | @pending seen status _ _ _ _ _ _ later _ awaited =>
    subst fails
    have others := fun read member => succeed read (List.mem_cons_of_mem _ member)
    obtain ⟨rfl, rfl, rfl, rfl, beyond⟩ := awaited.refused_of_succeed bounded others
    have onward := seen.le_after scenario.wait
    have begun : inserted ≤ seen.after scenario.wait := Nat.le_trans later onward
    have took : Event.storeTime (seen.after scenario.wait)
        ([⟨inserted, seen, .ok (some status)⟩].map (Read.event id)) = seen - inserted := by
      rw [List.map_singleton, Event.storeTime_cons, Event.storeTime_nil, Nat.add_zero]
      exact if_pos begun
    refine ⟨rfl, begun, ?_⟩
    change Instant.limit ≤ inserted + Event.storeTime (seen.after scenario.wait)
      ([⟨inserted, seen, .ok (some status)⟩].map (Read.event id)) + scenario.wait.nanos +
        scenario.pace.timeout.nanos
    rw [took, Nat.add_sub_cancel' later]
    exact Instant.limit_le_of_after beyond

theorem not_failed_of_fault? {reads : List Read}
    (succeed : ∀ event ∈ reads.map (Read.event id), event.fault? = none) :
    ∀ read ∈ reads, ∀ other, ¬ read.Failed other := by
  intro read member other failed
  have silent := succeed _ (List.mem_map_of_mem member)
  obtain ⟨began, ended, answer⟩ := read
  cases failed
  cases silent

theorem check_fault {wall : Timestamp} (bounded : scenario.Bounded)
    (calendar : wall.nanos + longestWait.nanos ≤ Timestamp.last.nanos)
    (course : (scenario.check start wall).Course identity now story ended (some (.error fault))) :
    Event.FaultLast (story.filter Event.isCall) fault ∨
      (fault = .config (.timeoutOutOfRange scenario.pace.timeout) ∧
        Instant.limit ≤ now + Event.storeTime ended (story.filter Event.isCall) +
          scenario.wait.nanos + scenario.pace.timeout.nanos) := by
  rcases check_explains course with ⟨succeed, _⟩ | ⟨other, last, decides⟩
  · right
    -- All calls succeed, so the check refused a timing of its own: only that of its poll is left.
    have silent : ∀ call ∈ story.filter Event.isCall, call.fault? = none :=
      fun call member => succeed call (List.mem_of_mem_filter member)
    rcases check_goes course with
      ⟨_, refused, _, _⟩ | ⟨make, instant, number, _, later, ⟨other, rfl, _⟩ | goes⟩
    · obtain ⟨_, beyond, _⟩ := last_of_refused bounded.delay_le refused
      have delay : scenario.delay.nanos ≤ longestWait.nanos := bounded.delay_le
      omega
    · cases silent _ (List.mem_singleton_self _)
    · obtain ⟨stored, watch, verdict, watched, calls, same⟩ := goes
      rw [calls] at silent ⊢
      cases verdict with
      | ok outcome => cases same
      | error other =>
        cases same
        have others := not_failed_of_fault? (List.forall_mem_cons.mp silent).2
        obtain ⟨rfl, onward, beyond⟩ := watched.refused_of_succeed stored bounded others
        refine ⟨rfl, ?_⟩
        rw [Event.storeTime_cons, Event.takesBy, if_pos (Nat.le_trans later onward),
          ← Nat.add_assoc, Nat.add_sub_cancel' later]
        exact beyond
  · left
    cases decides _ rfl
    exact last.filter_isCall

/-- Whatever settings, specs and names pass their checks, every scenario has timings within a day and a
budget that is their exact sum. Begun at least a day before the calendar ends, its check fails only by a
call of the store, unless the end of its poll, put off by the calls and the wait before it, is past the
last instant. -/
theorem resolved_fails_by_store (config : Config) (specs : List Spec) (only : List String)
    (scenarios : List Scenario) (valid : config.check = .ok ())
    (resolved : Spec.resolveAll specs config.polling only = .ok scenarios) :
    ∀ scenario ∈ scenarios, scenario.Bounded ∧
      scenario.budget.nanos = scenario.delay.nanos + scenario.buffer.nanos +
        scenario.pace.timeout.nanos + scenario.pace.interval.nanos ∧
      ∀ {σ : Type} (setting : Setting σ) (limit : Option Instant) (world : World σ),
        (setting.wall world.now).nanos + longestWait.nanos ≤ Timestamp.last.nanos →
        let ran := (Run.begin setting world scenario).alone setting limit world
        ∃ calls, ran.2.calls = world.calls ++ calls ∧
          ∀ fault, ran.1 = some (.error fault) →
            Event.FaultLast calls fault ∨
              (fault = .config (.timeoutOutOfRange scenario.pace.timeout) ∧
                Instant.limit ≤ world.now + Event.storeTime ran.2.now calls +
                  scenario.wait.nanos + scenario.pace.timeout.nanos) := by
  intro scenario member
  have bounded := Spec.resolveAll_bounded (Config.polling_checked valid) resolved scenario member
  refine ⟨bounded, bounded.budget_nanos, fun setting limit world calendar => ?_⟩
  obtain ⟨story, course, history⟩ :=
    Procedure.alone_course setting limit (Run.begin setting world scenario) world
  refine ⟨_, World.calls_append history, fun fault fails => ?_⟩
  rw [fails] at course
  exact check_fault bounded calendar course

namespace Sample

/-- The early read finds the record pending, and then the connection is lost. -/
def lostWorld : World Playback.State :=
  ⟨0, { insertions := [], scripts := [[{ reply := .ok (some .pending) },
    { reply := .error "connection reset" }]] }, 0, []⟩

def lostRun : Option (Except Error ScenarioResult) × World Playback.State :=
  (Run.begin slowSetting lostWorld laterScenario).alone slowSetting none lostWorld

end Sample

open Sample in
theorem resolved_fails_by_store_lost_connection :
    laterScenario.Bounded ∧ laterScenario.budget.nanos = 12500 * millisecond ∧
      lostRun.1 = some (.error (.storeUnavailable "connection reset")) ∧
      Event.FaultLast lostRun.2.calls (.storeUnavailable "connection reset") := by
  have valid : ({} : Config).check = .ok () := by rfl
  have resolved : Spec.resolveAll [laterSpec] {} ["LATER"] = .ok [laterScenario] := by rfl
  obtain ⟨bounded, sum, fails⟩ := resolved_fails_by_store {} [laterSpec] ["LATER"] [laterScenario]
    valid resolved laterScenario (List.mem_singleton_self _)
  obtain ⟨calls, told, explained⟩ := fails slowSetting none lostWorld (by decide)
  have made : laterScenario.record? (slowSetting.wall lostWorld.now) = .ok fun who =>
      laterScenario.fill (.scheduled who "E2E Scheduled" "From the future" ⟨5000000000⟩) := by rfl
  have lost : lostRun.1 = some (.error (.storeUnavailable "connection reset")) := by
    rw [lostRun, Run.begin, check]
    simp only [made]
    cbv
  refine ⟨bounded, by rw [sum]; decide, lost, ?_⟩
  rcases explained _ lost with last | ⟨other, _⟩
  · rw [lostRun, told]
    exact last
  · cases other

namespace Sample

def dayLongSpec : Spec :=
  { name := "day", kind := .scheduled, delaySecs := some 86400, bufferSecs := some 1800,
    timeoutSecs := some 86400 }

def dayLongScenario : Scenario := dayLongSpec.fill {}

def remoteSetting : Setting Playback.State :=
  { slowSetting with wall := fun now => ⟨now - (Instant.limit - 90000 * second : Nat)⟩ }

/-- Twenty-five hours before the last instant, with a store that answers every call at once. -/
def remoteWorld : World Playback.State :=
  ⟨Instant.limit - 90000 * second,
    { insertions := [], scripts := [[{ reply := .ok (some .pending) }]] }, 0, []⟩

def remoteRun : Option (Except Error ScenarioResult) × World Playback.State :=
  (Run.begin remoteSetting remoteWorld dayLongScenario).alone remoteSetting none remoteWorld

end Sample

open Sample in
/-- With a day left at its start, a scenario that passed all checks can still come to its poll too late for
the timeout of that to be written, though no call of the store fails. -/
theorem late_poll_refused :
    ({} : Config).check = .ok () ∧
      Spec.resolveAll [dayLongSpec] ({} : Config).polling [] = .ok [dayLongScenario] ∧
      remoteWorld.now.after? longestWait ≠ none ∧
      (remoteSetting.wall remoteWorld.now).nanos + longestWait.nanos ≤ Timestamp.last.nanos ∧
      remoteRun.2.calls.map Event.fault? = [none, none] ∧
      remoteRun.1 = some (.error (.config (.timeoutOutOfRange longestWait))) := by
  have made : dayLongScenario.record? (remoteSetting.wall remoteWorld.now) = .ok fun who =>
      dayLongScenario.fill (.scheduled who "E2E Scheduled" "From the future" ⟨86400000000000⟩) := by rfl
  refine ⟨by rfl, by rfl, by decide, by decide, ?_, ?_⟩
  · rw [remoteRun, Run.begin, check]
    simp only [made]
    cbv
  · rw [remoteRun, Run.begin, check]
    simp only [made]
    cbv

end Scenario

end DeliveryCheck
