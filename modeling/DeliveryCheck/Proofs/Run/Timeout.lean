import DeliveryCheck.Run.Execution
import DeliveryCheck.Proofs.Run.Order
import DeliveryCheck.Proofs.Scenario.Calls

namespace DeliveryCheck

def ScenarioResult.resolvedMark (result : ScenarioResult) : Mark :=
  ⟨result.name, .resolved, result.elapsed⟩

def Event.resolved? : Event → Option Mark
  | .entered mark => if mark.phase = .resolved then some mark else none
  | .inserted .. | .read .. | .reported .. | .printed _ | .closed _ => none

/-- The marks of checks that have resolved, as far as an end of one of them tells. -/
def resolvedMarks (answer : Option (Except Error ScenarioResult)) : List Mark :=
  (answer.bind Except.toOption).toList.map ScenarioResult.resolvedMark

namespace World

variable {σ : Type} {world after : World σ} {story : List Event}

def resolved (world : World σ) : List Mark := world.history.reverse.filterMap Event.resolved?

theorem resolved_append (history : after.history = story.reverse ++ world.history) :
    after.resolved = world.resolved ++ story.filterMap Event.resolved? := by
  rw [resolved, resolved, history, List.reverse_append, List.reverse_reverse, List.filterMap_append]

theorem resolved_note (world : World σ) (event : Event) :
    (world.note event).resolved = world.resolved ++ event.resolved?.toList := by
  have history : (world.note event).history = [event].reverse ++ world.history := rfl
  rw [resolved_append history]
  cases marked : event.resolved? with
  | none => rw [List.filterMap_cons_none marked]; rfl
  | some mark => rw [List.filterMap_cons_some marked]; rfl

theorem resolved_report (announce : ScenarioResult → List String) (result : ScenarioResult)
    (world : World σ) : (world.report announce result).resolved = world.resolved := by
  rw [resolved_append (world.history_report announce result)]
  simp [Event.resolved?]

end World

namespace Scenario

variable {scenario : Scenario} {start now ended : Instant} {id : Uuid} {identity : Nat → Identity}
  {story : List Event} {answer : Except Error ScenarioResult}
  {procedure : Procedure (Except Error ScenarioResult)}

theorem resolved?_mark {phase : Phase} (earlier : phase ≠ .resolved) (now : Instant) :
    (Event.entered (scenario.mark start phase now)).resolved? = none := if_neg earlier

theorem Stage.resolved_of_course (stage : Stage scenario start id procedure)
    (course : procedure.Course identity now story ended (some answer)) :
    story.filterMap Event.resolved? = resolvedMarks (some answer) := by
  induction stage generalizing now story with
  | refuses =>
    obtain ⟨rfl, _, rfl⟩ := course.of_done
    rfl
  | resolves =>
    cases course with
    | enter rest =>
      obtain ⟨rfl, _, rfl⟩ := rest.of_done
      rfl
  | enters earlier _ ih =>
    cases course with
    | enter rest =>
      rw [List.filterMap_cons_none (resolved?_mark earlier _)]
      exact ih rest
  | pauses _ ih =>
    cases course with
    | pause rest => exact ih _ rest
  | reads stops _ ih =>
    cases course with
    | @read _ _ _ _ read _ _ _ _ rest =>
      rw [List.filterMap_cons_none rfl]
      cases read with
      | error fault =>
        rw [stops] at rest
        obtain ⟨rfl, _, rfl⟩ := rest.of_done
        rfl
      | ok status => exact ih _ _ rest

theorem check_resolved_of_course {wall : Timestamp}
    (course : (scenario.check start wall).Course identity now story ended (some answer)) :
    story.filterMap Event.resolved? = resolvedMarks (some answer) := by
  rcases scenario.check_cases start wall with
    ⟨fault, _, same⟩ | ⟨make, next, _, same, stops, rest⟩
  · rw [same] at course
    obtain ⟨rfl, _, rfl⟩ := course.of_done
    rfl
  · rw [same] at course
    cases course with
    | @insert _ _ _ instant _ stored _ _ _ _ onward =>
      rw [List.filterMap_cons_none rfl]
      cases stored with
      | error fault =>
        rw [stops] at onward
        obtain ⟨rfl, _, rfl⟩ := onward.of_done
        rfl
      | ok id => exact (rest instant id).resolved_of_course onward

variable {σ : Type} (setting : Setting σ) (limit : Option Instant)

theorem Stage.resolved_alone (stage : Stage scenario start id procedure) (world : World σ) :
    (procedure.alone setting limit world).2.resolved =
      world.resolved ++ resolvedMarks (procedure.alone setting limit world).1 := by
  induction stage generalizing world with
  | refuses => exact (List.append_nil _).symm
  | resolves => exact world.resolved_note _
  | @enters phase now _ earlier _ ih =>
    rw [Procedure.alone, ih, World.resolved_note, resolved?_mark earlier, Option.toList_none,
      List.append_nil]
  | pauses _ ih =>
    rw [Procedure.alone]
    split
    · exact (List.append_nil _).symm
    · exact ih _ _
  | @reads next stops _ ih =>
    rcases Procedure.alone_read_cases setting limit id next world with
      ⟨cut, told⟩ | ⟨ended, answer, later, _, _, told, same⟩
    · rw [cut, World.resolved, told]
      exact (List.append_nil _).symm
    · have history : later.history =
          [Event.read world.now ended id answer].reverse ++ world.history := told
      have silent := World.resolved_append history
      rw [List.filterMap_cons_none rfl, List.filterMap_nil, List.append_nil] at silent
      rw [same]
      cases answer with
      | error fault =>
        rw [stops]
        exact silent.trans (List.append_nil _).symm
      | ok status => rw [ih, silent]

theorem check_resolved_alone (start : Instant) (wall : Timestamp) (world : World σ) :
    ((scenario.check start wall).alone setting limit world).2.resolved =
      world.resolved ++ resolvedMarks ((scenario.check start wall).alone setting limit world).1 := by
  rcases scenario.check_cases start wall with
    ⟨fault, _, same⟩ | ⟨make, next, _, same, stops, rest⟩
  · rw [same]
    exact (List.append_nil _).symm
  · rw [same]
    rcases Procedure.alone_insert_cases setting limit make next world with
      ⟨cut, told⟩ | ⟨ended, number, answer, later, _, _, told, same⟩
    · rw [cut, World.resolved, told]
      exact (List.append_nil _).symm
    · have history : later.history =
          [Event.inserted world.now ended number (make (setting.identity number)) answer].reverse ++
            world.history := told
      have silent := World.resolved_append history
      rw [List.filterMap_cons_none rfl, List.filterMap_nil, List.append_nil] at silent
      rw [same]
      cases answer with
      | error fault =>
        rw [stops]
        exact silent.trans (List.append_nil _).symm
      | ok id => rw [(rest ended id).resolved_alone, silent]

end Scenario

namespace Run

section

variable {σ : Type} {setting : Setting σ} (announce : ScenarioResult → List String)
  (limit : Option Instant)

theorem resolved_inTurn (setting : Setting σ) (announce : ScenarioResult → List String)
    (limit : Option Instant) (scenarios : List Scenario) (world : World σ) :
    ∃ results,
      (inTurn setting announce limit scenarios world).2.reported = world.reported ++ results ∧
      (inTurn setting announce limit scenarios world).2.resolved =
        world.resolved ++ results.map ScenarioResult.resolvedMark := by
  induction scenarios generalizing world with
  | nil => exact ⟨[], (List.append_nil _).symm, (List.append_nil _).symm⟩
  | cons scenario rest ih =>
    have quiet := Procedure.reported_alone setting limit (begin setting world scenario) world
    have marks := scenario.check_resolved_alone setting limit world.now
      (setting.wall world.now) world
    change ((begin setting world scenario).alone setting limit world).2.resolved =
      world.resolved ++ resolvedMarks ((begin setting world scenario).alone setting limit world).1
      at marks
    rw [inTurn]
    split
    next after ends =>
      rw [ends] at quiet marks
      exact ⟨[], quiet.trans (List.append_nil _).symm, marks⟩
    next fault after ends =>
      rw [ends] at quiet marks
      exact ⟨[], quiet.trans (List.append_nil _).symm, marks⟩
    next result after ends =>
      rw [ends] at quiet marks
      obtain ⟨results, reported, resolved⟩ := ih (after.report announce result)
      refine ⟨result :: results, ?_, ?_⟩
      · rw [reported, World.reported_report, quiet, List.append_assoc]
        rfl
      · rw [resolved, World.resolved_report, marks, List.append_assoc]
        rfl

theorem resolved_handOver (ends : List (Except Error ScenarioResult)) (world : World σ) :
    (handOver announce ends world).2.resolved = world.resolved := by
  induction ends generalizing world with
  | nil => rfl
  | cons first rest ih =>
    cases first with
    | error fault => exact ih world
    | ok result =>
      rw [handOver, ih]
      exact World.resolved_report announce result world

theorem flatten_resolvedMarks (ends : List (Except Error ScenarioResult)) :
    (ends.map fun answer => resolvedMarks (some answer)).flatten =
      (ends.filterMap Except.toOption).map ScenarioResult.resolvedMark := by
  induction ends with
  | nil => rfl
  | cons first rest ih =>
    rw [List.map_cons, List.flatten_cons, ih]
    cases first <;> rfl

theorem resolved_together (scenarios : List Scenario) (world : World σ)
    {ends : List (Except Error ScenarioResult)} {after : World σ}
    (ran : Task.together setting limit
      (scenarios.map fun scenario => Task.ready world.now (begin setting world scenario)) world =
        (some ends, after)) :
    ∃ marks, after.resolved = world.resolved ++ marks ∧
      ((ends.filterMap Except.toOption).map ScenarioResult.resolvedMark).Perm marks := by
  obtain ⟨lives, told, live, whole, history, results⟩ := Task.together_course setting limit
    (scenarios.map fun scenario => Task.ready world.now (begin setting world scenario)) world
  rw [ran] at history results
  have ended := results ends rfl
  refine ⟨_, World.resolved_append history, ?_⟩
  have marks : ∀ life ∈ lives, life.1.filterMap Event.resolved? = resolvedMarks life.2 := by
    intro life listed
    have answered : life.2 ∈ ends.map some := ended ▸ List.mem_map_of_mem listed
    obtain ⟨answer, _, same⟩ := List.mem_map.mp answered
    obtain ⟨scenario, finish, course⟩ := lives_check live life listed
    rw [← same] at course ⊢
    exact Scenario.check_resolved_of_course course
  have same : (lives.map Prod.fst).map (List.filterMap Event.resolved?) =
      ends.map fun answer => resolvedMarks (some answer) := by
    have answers := congrArg (List.map resolvedMarks) ended
    rw [List.map_map, List.map_map] at answers
    rw [List.map_map]
    exact (List.map_congr_left marks).trans answers
  have all := whole.perm.filterMap Event.resolved?
  rw [List.filterMap_flatten, same, flatten_resolvedMarks] at all
  exact all.symm

/-- What a run has to do with the results of the checks that have resolved. -/
structure KeepsResolved (scenarios : List Scenario) (marks : List Mark)
    (results : List ScenarioResult) : Prop where
  once : (results.map ScenarioResult.resolvedMark).Perm marks
  ordered : (results.map fun result => (result.name, result.kind)).Sublist
    (scenarios.map fun scenario => (scenario.name, scenario.kind))

theorem keepsResolved_nil_iff {scenarios : List Scenario} {marks : List Mark} :
    KeepsResolved scenarios marks [] ↔ marks = [] := by
  constructor
  · exact fun keeps => List.nil_perm.mp keeps.once
  · rintro rfl
    exact ⟨.nil, List.nil_sublist _⟩

theorem names_sublist {checks : List Checked} (genuine : ∀ check ∈ checks, check.Genuine setting) :
    ((checks.filterMap Checked.result?).map fun result => (result.name, result.kind)).Sublist
      ((checks.map Checked.scenario).map fun scenario => (scenario.name, scenario.kind)) := by
  induction checks with
  | nil => exact List.Sublist.refl _
  | cons check rest ih =>
    obtain ⟨own, others⟩ := List.forall_mem_cons.mp genuine
    cases answered : check.result? with
    | none =>
      rw [List.filterMap_cons_none answered]
      exact (ih others).cons _
    | some result =>
      obtain ⟨name, kind⟩ := own.named (Checked.result?_eq_some_iff.mp answered)
      rw [List.filterMap_cons_some answered, List.map_cons, name, kind]
      exact (ih others).cons_cons _

theorem inTurn_keepsResolved (setting : Setting σ) (announce : ScenarioResult → List String)
    (limit : Option Instant) (scenarios : List Scenario) (world : World σ) :
    ∃ marks results,
      (inTurn setting announce limit scenarios world).2.resolved = world.resolved ++ marks ∧
      (inTurn setting announce limit scenarios world).2.reported = world.reported ++ results ∧
      KeepsResolved scenarios marks results := by
  obtain ⟨results, reported, resolved⟩ :=
    resolved_inTurn setting announce limit scenarios world
  obtain ⟨checks, others, turns, reportedToo, _⟩ :=
    inTurn_goes setting announce limit scenarios world
  have same := List.append_cancel_left (reported.symm.trans reportedToo)
  refine ⟨_, results, resolved, reported, ⟨.refl _, ?_⟩⟩
  rw [same, turns.results_eq]
  have begun := (turns.planned.map fun scenario => (scenario.name, scenario.kind)).sublist
  exact (names_sublist turns.genuine).trans begun

theorem together_keepsResolved (scenarios : List Scenario) (world : World σ)
    {ends : List (Except Error ScenarioResult)} {after : World σ}
    (ran : Task.together setting limit
      (scenarios.map fun scenario => Task.ready world.now (begin setting world scenario)) world =
        (some ends, after)) :
    ∃ marks,
      (handOver announce ends after).2.resolved = world.resolved ++ marks ∧
      KeepsResolved scenarios marks (ends.filterMap Except.toOption) := by
  obtain ⟨marks, resolved, once⟩ := resolved_together limit scenarios world ran
  obtain ⟨checks, calls, genuine, planned, answers, _, told⟩ :=
    together_checked setting limit scenarios world ran
  refine ⟨marks, ?_, ⟨once, ?_⟩⟩
  · rw [resolved_handOver, resolved]
  · rw [(orderly_of_ends announce genuine planned answers told after).results_eq, ← planned]
    exact names_sublist genuine

/-- However a run ends, the result of every check that has resolved is handed over once and in the order
of the list, unless the run goes on together and is cut off when some check has resolved. -/
theorem keepsResolved_iff (options : RunOptions) (scenarios : List Scenario) (world : World σ) :
    ∃ marks results,
      (all setting announce options scenarios world).2.resolved = world.resolved ++ marks ∧
      (all setting announce options scenarios world).2.reported = world.reported ++ results ∧
      (KeepsResolved scenarios marks results ↔
        ¬ (IsCutOff setting announce options scenarios world ∧ options.concurrent = true ∧
          marks ≠ [])) := by
  cases concurrent : options.concurrent with
  | false =>
    obtain ⟨marks, results, resolved, reported, keeps⟩ := inTurn_keepsResolved setting
      announce (some (options.deadline scenarios world.now)) scenarios world
    rw [world_all, concurrent, upTo, if_neg Bool.false_ne_true]
    exact ⟨marks, results, resolved, reported, ⟨fun _ => by simp, fun _ => keeps⟩⟩
  | true =>
    have quiet := Task.reported_together setting (some (options.deadline scenarios world.now))
      (scenarios.map fun scenario => Task.ready world.now (begin setting world scenario)) world
    rw [world_all, IsCutOff, concurrent, upTo, if_pos rfl, atOnce]
    dsimp only
    split
    next after stopped =>
      rw [stopped] at quiet
      obtain ⟨_, told, _, _, history, _⟩ := Task.together_course setting
        (some (options.deadline scenarios world.now))
        (scenarios.map fun scenario => Task.ready world.now (begin setting world scenario)) world
      rw [stopped] at history
      refine ⟨_, [], World.resolved_append history, quiet.trans (List.append_nil _).symm, ?_⟩
      rw [keepsResolved_nil_iff]
      simp
    next ends after finished =>
      rw [finished] at quiet
      obtain ⟨marks, resolved, keeps⟩ := together_keepsResolved announce _ scenarios world finished
      refine ⟨marks, ends.filterMap Except.toOption, resolved, ?_, ⟨fun _ cut => Option.some_ne_none _ cut.1, fun _ => keeps⟩⟩
      rw [reported_handOver, quiet]

end

namespace Sample

/-- The first record is processed at once, and the first read of the other never ends in time. -/
def stuckWorld : World Playback.State :=
  ⟨0,
    { insertions := []
      scripts :=
        [[{ reply := .ok (some ⟨true, 0, none⟩) }],
          [{ takes := .ofSeconds 1000, reply := .ok (some .pending) }]] },
    0, []⟩

def pair : List Scenario :=
  [Spec.fill { name := "done", kind := .immediate } {},
   Spec.fill { name := "stuck", kind := .immediate } {}]

end Sample

open Sample in
theorem timeout_drops_resolved :
    (all setting (announcement {}) { concurrent := true } pair stuckWorld).1 =
        .error (.runTimeout (.ofMillis 15500)) ∧
      (all setting (announcement {}) { concurrent := true } pair stuckWorld).2.resolved =
        [⟨"done", .resolved, .zero⟩] ∧
      (all setting (announcement {}) { concurrent := true } pair stuckWorld).2.reported = [] ∧
      ¬ KeepsResolved pair [⟨"done", .resolved, .zero⟩] [] ∧
      (execute setting { concurrent := true } {} pair stuckWorld).2.printed.getLast? =
        some "Run aborted after 0 of 2 scenarios (0 failed)" := by
  refine ⟨by cbv, by cbv, by cbv, fun keeps => ?_, by cbv⟩
  have handed := keeps.once.length_eq
  cases handed

end Run

end DeliveryCheck
