import Mathlib
import DeliveryCheck.Proofs.Run.Reports
import DeliveryCheck.Proofs.Scenario.Calls
import DeliveryCheck.Proofs.Worker.Shows
import DeliveryCheck.Scenario.Spec

namespace DeliveryCheck.Worker

variable {script : Script} {storeWall wall : Instant → Timestamp} {identity : Nat → Identity}
  {story : List Event} {first last : Option Entry}

/-- The entry of a record as a script treats it, and a result that this leaves open. -/
structure Entry.Exposed (script : Script) (result : ScenarioResult) (entry : Entry) : Prop where
  treated : entry.behavior = script.behaviorFor entry.record
  admits : entry.behavior.Admits result.kind result.outcome

theorem Told.shows {id : Uuid} {entry : Entry} {reads : List Read}
    (told : Told script storeWall id (some entry) (reads.map (Read.event id)) last) :
    entry.Shows reads := by
  induction reads generalizing entry with
  | nil => exact .nil
  | cons read rest ih =>
    obtain ⟨began, ended, answer⟩ := read
    cases told with
    | seen observed told => exact .seen observed (ih told)
    | failed told => exact .failed (ih told)
    | other elsewhere => simp [Event.isAbout, Event.reads, Read.event] at elsewhere

theorem check_exposed {scenario : Scenario} {start now ended : Instant} {wall : Timestamp}
    {result : ScenarioResult}
    (course : (scenario.check start wall).Course identity now story ended (some (.ok result)))
    (told : Told script storeWall result.id first (story.filter (Event.isAbout result.id)) last) :
    ∃ entry, last = some entry ∧ entry.Exposed script result := by
  obtain ⟨make, instant, number, id, reads, outcome, _, _, calls, evidence, rfl⟩ :=
    Scenario.check_course course
  have about : story.filter (Event.isAbout id) =
      .inserted now instant number (make (identity number)) (.ok id) ::
        reads.map (Read.event id) := by
    rw [Event.filter_isAbout, calls, List.filter_eq_self.mpr]
    intro event member
    rcases List.mem_cons.mp member with rfl | member
    · simp [Event.isAbout, Event.stores]
    · obtain ⟨read, _, rfl⟩ := List.mem_map.mp member
      simp [Event.isAbout, Event.reads, Read.event]
  simp only [Scenario.result] at told
  rw [about] at told
  cases told with
  | other elsewhere => simp [Event.isAbout, Event.stores] at elsewhere
  | inserted mine made told =>
    obtain ⟨due, _, rfl⟩ := State.entryFor?_eq_some_iff.mp made
    obtain ⟨later, rfl, record, behavior⟩ := told.keeps
    refine ⟨later, rfl, ?_, ?_⟩
    · rw [behavior, record]
    · rw [behavior]
      exact told.shows.admits evidence

theorem check_stores {scenario : Scenario} {start now ended : Instant} {wall : Timestamp}
    {result : ScenarioResult}
    (course : (scenario.check start wall).Course identity now story ended (some (.ok result))) :
    0 < story.countP (Event.stores result.id) := by
  obtain ⟨make, instant, number, id, reads, outcome, _, _, calls, _, rfl⟩ :=
    Scenario.check_course course
  have member : Event.inserted now instant number (make (identity number)) (.ok id) ∈
      story.filter Event.isCall := by
    rw [calls]
    exact List.mem_cons_self
  rw [List.countP_pos_iff]
  exact ⟨_, List.mem_of_mem_filter member, by simp [Event.stores, Scenario.result]⟩

def Exposed (script : Script) (state : State) (result : ScenarioResult) : Prop :=
  ∃ entry, state.find? result.id = some entry ∧ entry.Exposed script result

theorem Exposed.moves {one two : World State} {result : ScenarioResult}
    (exposed : Exposed script one.state result)
    (moves : World.Moves ⟨store script storeWall, identity, wall⟩ one two) :
    Exposed script two.state result := by
  obtain ⟨entry, found, treated, admits⟩ := exposed
  obtain ⟨story, _, told⟩ := told_of_moves moves
  have told := told result.id
  rw [found] at told
  obtain ⟨later, present, record, behavior⟩ := told.keeps
  refine ⟨later, present, ?_, ?_⟩
  · rw [behavior, record]
    exact treated
  · rw [behavior]
    exact admits

section

variable (script : Script) (storeWall wall : Instant → Timestamp) (identity : Nat → Identity)
  (announce : ScenarioResult → List String) (limit : Option Instant)

theorem alone_exposed (scenario : Scenario) {world after : World State} {result : ScenarioResult}
    (ends : (Run.begin ⟨store script storeWall, identity, wall⟩ world scenario).alone
      ⟨store script storeWall, identity, wall⟩ limit world = (some (.ok result), after)) :
    Exposed script after.state result := by
  let setting : Setting State := ⟨store script storeWall, identity, wall⟩
  obtain ⟨story, course, history⟩ :=
    Procedure.alone_course setting limit (Run.begin setting world scenario) world
  obtain ⟨events, toldHistory, told⟩ :=
    told_of_moves (Procedure.alone_moves setting limit (Run.begin setting world scenario) world)
  obtain rfl := World.story_unique history toldHistory
  simp only [setting, ends] at course told
  exact check_exposed course (told result.id).filter

theorem inTurn_exposed (scenarios : List Scenario) (world : World State) :
    ∃ results,
      (Run.inTurn ⟨store script storeWall, identity, wall⟩ announce limit scenarios world).2.reported =
        world.reported ++ results ∧
      ∀ result ∈ results, Exposed script
        (Run.inTurn ⟨store script storeWall, identity, wall⟩ announce limit scenarios world).2.state
        result := by
  let setting : Setting State := ⟨store script storeWall, identity, wall⟩
  induction scenarios generalizing world with
  | nil => exact ⟨[], by simp [Run.inTurn], by simp⟩
  | cons scenario rest ih =>
    have quiet := Procedure.reported_alone setting limit (Run.begin setting world scenario) world
    rw [Run.inTurn]
    split
    next after ends =>
      simp only [setting, ends] at quiet
      exact ⟨[], by simp [quiet], by simp⟩
    next fault after ends =>
      simp only [setting, ends] at quiet
      exact ⟨[], by simp [quiet], by simp⟩
    next result after ends =>
      simp only [setting, ends] at quiet
      obtain ⟨results, reported, exposed⟩ := ih (after.report announce result)
      refine ⟨result :: results, ?_, ?_⟩
      · rw [reported, World.reported_report, quiet, List.append_assoc]
        rfl
      · intro other member
        rcases List.mem_cons.mp member with rfl | member
        · have onward := (Run.report_moves setting announce other after).trans
            (Run.inTurn_moves setting announce limit rest (after.report announce other))
          exact (alone_exposed script storeWall wall identity limit scenario ends).moves onward
        · exact exposed other member

theorem together_exposed (scenarios : List Scenario) (world : World State)
    {ends : List (Except Error ScenarioResult)} {after : World State}
    (ran : Task.together ⟨store script storeWall, identity, wall⟩ limit
      (scenarios.map fun scenario => Task.ready world.now
        (Run.begin ⟨store script storeWall, identity, wall⟩ world scenario)) world =
      (some ends, after)) :
    ∀ result, .ok result ∈ ends → Exposed script after.state result := by
  let setting : Setting State := ⟨store script storeWall, identity, wall⟩
  let tasks : List (Task State (Except Error ScenarioResult)) :=
    scenarios.map fun scenario => .ready world.now (Run.begin setting world scenario)
  obtain ⟨lives, told, live, whole, history, results⟩ :=
    Task.together_course setting limit tasks world
  obtain ⟨events, toldHistory, entries⟩ :=
    told_of_moves (Task.together_moves limit (Run.genuine_checks setting scenarios world) world)
  obtain rfl := World.story_unique history toldHistory
  simp only [setting, tasks, ran] at entries results
  intro result member
  have lived : some (.ok result) ∈ lives.map Prod.snd := by
    rw [results ends rfl]
    exact List.mem_map_of_mem member
  obtain ⟨life, listed, finished⟩ := List.mem_map.mp lived
  have checks := Run.lives_check live
  obtain ⟨scenario, ended, course⟩ := checks life listed
  rw [finished] at course
  -- the check has stored its record, so no other check has
  have once : told.countP (Event.stores result.id) ≤ life.1.countP (Event.stores result.id) := by
    have most := (entries result.id).countP_stores
    have own := check_stores course
    split at most <;> omega
  obtain ⟨earlier, others, rfl⟩ := List.append_of_mem listed
  have ownEntries := (entries result.id).filter
  rw [Task.filter_isAbout_eq checks whole once] at ownEntries
  exact check_exposed course ownEntries

theorem atOnce_exposed (scenarios : List Scenario) (world : World State) :
    ∃ results,
      (Run.atOnce ⟨store script storeWall, identity, wall⟩ announce limit scenarios world).2.reported =
        world.reported ++ results ∧
      ∀ result ∈ results, Exposed script
        (Run.atOnce ⟨store script storeWall, identity, wall⟩ announce limit scenarios world).2.state
        result := by
  let setting : Setting State := ⟨store script storeWall, identity, wall⟩
  let tasks : List (Task State (Except Error ScenarioResult)) :=
    scenarios.map fun scenario => .ready world.now (Run.begin setting world scenario)
  have quiet := Task.reported_together setting limit tasks world
  rw [Run.atOnce]
  split
  next after ran =>
    simp only [setting, tasks, ran] at quiet
    exact ⟨[], by simp [quiet], by simp⟩
  next ends after ran =>
    simp only [setting, tasks, ran] at quiet
    have exposed := together_exposed script storeWall wall identity limit scenarios world ran
    refine ⟨ends.filterMap Except.toOption, ?_, ?_⟩
    · rw [← quiet]
      exact Run.reported_handOver announce ends after
    · intro result member
      obtain ⟨first, listed, same⟩ := List.mem_filterMap.mp member
      cases first with
      | error fault => cases same
      | ok found =>
        cases same
        exact (exposed result listed).moves (Run.handOver_moves setting announce ends after)

/-- Every result that a run hands over is one that is left open by the way in which the worker treats
the record, from its insertion on. -/
theorem misbehavior_exposed (options : RunOptions) (scenarios : List Scenario)
    (world : World State) :
    ∃ results,
      (Run.all ⟨store script storeWall, identity, wall⟩ announce options scenarios world).2.reported =
        world.reported ++ results ∧
      ∀ result ∈ results, ∃ entry,
        (Run.all ⟨store script storeWall, identity, wall⟩ announce options scenarios world).2.state.find?
          result.id = some entry ∧
        entry.behavior = script.behaviorFor entry.record ∧
        entry.behavior.Admits result.kind result.outcome := by
  have run : ∃ results,
      (Run.all ⟨store script storeWall, identity, wall⟩ announce options scenarios world).2.reported =
        world.reported ++ results ∧
      ∀ result ∈ results, Exposed script
        (Run.all ⟨store script storeWall, identity, wall⟩ announce options scenarios world).2.state
        result := by
    rw [Run.all]
    cases options.concurrent with
    | true => exact atOnce_exposed script storeWall wall identity announce _ scenarios world
    | false => exact inTurn_exposed script storeWall wall identity announce _ scenarios world
  obtain ⟨results, reported, exposed⟩ := run
  refine ⟨results, reported, fun result member => ?_⟩
  obtain ⟨entry, found, treated, admits⟩ := exposed result member
  exact ⟨entry, found, treated, admits⟩

end

namespace Sample

/-- Takes the records for one recipient back, and fails on those for everybody. -/
def restlessScript : Script :=
  { behavior := .flapping (.ofMillis 700), broadcast := some (.failing "mailbox full") }

def restlessSetting : Setting State :=
  ⟨store restlessScript fun now => ⟨now⟩, fun issued => ⟨.ofNat (issued + 1), .ofNat (issued + 1)⟩,
    fun now => ⟨now⟩⟩

def restlessScenarios : List Scenario :=
  [Spec.fill { name := "one", kind := .immediate } {},
    Spec.fill { name := "all", kind := .broadcast, timeoutSecs := some 1 } {}]

def restlessRun : Except Error Unit × World State :=
  Run.all restlessSetting (fun _ => []) { concurrent := true } restlessScenarios ⟨0, {}, 0, []⟩

end Sample

open Sample in
theorem misbehavior_exposed_both_ways :
    restlessRun.2.reported.map ScenarioResult.outcome =
      [.failed (.regressed .pending),
        .failed (.timedOut (some ⟨false, 3, some "mailbox full"⟩) (.ofSeconds 1) 3)] ∧
    ∀ result ∈ restlessRun.2.reported, ∃ entry,
      restlessRun.2.state.find? result.id = some entry ∧
      entry.behavior = restlessScript.behaviorFor entry.record ∧
      entry.behavior.Admits result.kind result.outcome := by
  obtain ⟨results, reported, exposed⟩ :=
    misbehavior_exposed restlessScript (fun now => ⟨now⟩) (fun now => ⟨now⟩)
      (fun issued => ⟨.ofNat (issued + 1), .ofNat (issued + 1)⟩) (fun _ => []) { concurrent := true }
      restlessScenarios ⟨0, {}, 0, []⟩
  refine ⟨by cbv, fun result member => exposed result ?_⟩
  have same : restlessRun.2.reported = results := reported
  rw [← same]
  exact member

end DeliveryCheck.Worker
