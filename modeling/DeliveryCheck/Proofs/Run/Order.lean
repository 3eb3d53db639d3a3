import Mathlib
import DeliveryCheck.Scenario.Spec
import DeliveryCheck.Store.Playback
import DeliveryCheck.Proofs.Run.Checked

namespace DeliveryCheck

namespace Run

section

variable {σ : Type} {setting : Setting σ} (announce : ScenarioResult → List String)
  (limit : Option Instant)

/-- How a run that comes to its end deals with its checks, which are together or one after another. -/
structure Orderly (setting : Setting σ) (concurrent : Bool) (scenarios : List Scenario)
    (checks : List Checked) (calls : List Event) (results : List ScenarioResult)
    (verdict : Except Error Unit) : Prop where
  genuine : ∀ check ∈ checks, check.Genuine setting
  ended : ∀ check ∈ checks, ∃ answer, check.answer = some answer
  told : Interleaved (checks.map Checked.calls) calls
  results_eq : results = checks.filterMap Checked.result?
  complete : (∀ check ∈ checks, ∃ result, check.answer = some (.ok result)) →
    verdict = .ok () ∧ checks.map Checked.scenario = scenarios ∧
      results.map (fun result => (result.name, result.kind)) =
        scenarios.map fun scenario => (scenario.name, scenario.kind)
  first_fault : ∀ earlier failing others fault, checks = earlier ++ failing :: others →
    (∀ check ∈ earlier, ∃ result, check.answer = some (.ok result)) →
    failing.answer = some (.error fault) → verdict = .error fault
  stops : concurrent = false → ∀ earlier failing others fault,
    checks = earlier ++ failing :: others → failing.answer = some (.error fault) →
    others = [] ∧ checks.map Checked.scenario = scenarios.take (earlier.length + 1) ∧
      earlier.map Checked.answer = results.map fun result => some (.ok result)
  in_turn : concurrent = false → calls = (checks.map Checked.calls).flatten
  failed_call_last : concurrent = false → ∀ before call behind fault,
    calls = before ++ call :: behind → call.fault? = some fault → behind = []
  all_begun : concurrent = true → checks.map Checked.scenario = scenarios

theorem verdict_of_results {ends : List (Except Error ScenarioResult)}
    (succeed : ∀ answer ∈ ends, ∃ result, answer = .ok result) (world : World σ) :
    (handOver announce ends world).1 = .ok () := by
  induction ends generalizing world with
  | nil => rfl
  | cons first rest ih =>
    obtain ⟨⟨result, rfl⟩, others⟩ := List.forall_mem_cons.mp succeed
    exact ih others _

theorem verdict_of_fault {earlier others : List (Except Error ScenarioResult)} {fault : Error}
    (succeed : ∀ answer ∈ earlier, ∃ result, answer = .ok result) (world : World σ) :
    (handOver announce (earlier ++ .error fault :: others) world).1 = .error fault := by
  induction earlier generalizing world with
  | nil => rfl
  | cons first rest ih =>
    obtain ⟨⟨result, rfl⟩, before⟩ := List.forall_mem_cons.mp succeed
    exact ih before _

theorem names_of_answers {checks : List Checked} {results : List ScenarioResult}
    (genuine : ∀ check ∈ checks, check.Genuine setting)
    (answers : checks.map Checked.answer = results.map fun result => some (.ok result)) :
    results.map (fun result => (result.name, result.kind)) =
      (checks.map Checked.scenario).map fun scenario => (scenario.name, scenario.kind) := by
  induction checks generalizing results with
  | nil =>
    cases results with
    | nil => rfl
    | cons => cases answers
  | cons check rest ih =>
    cases results with
    | nil => cases answers
    | cons result results =>
      obtain ⟨answered, others⟩ := List.cons.inj answers
      obtain ⟨own, genuine⟩ := List.forall_mem_cons.mp genuine
      obtain ⟨name, kind⟩ := own.named answered
      rw [List.map_cons, ih genuine others, name, kind]
      rfl

theorem InTurn.orderly {scenarios : List Scenario} {checks : List Checked}
    {results : List ScenarioResult} {verdict : Except Error Unit}
    (turns : InTurn setting scenarios checks results (some verdict)) :
    Orderly setting false scenarios checks (checks.map Checked.calls).flatten results verdict where
  genuine := turns.genuine
  ended := turns.answered
  told := .of_flatten _
  results_eq := turns.results_eq
  complete succeed := by
    obtain ⟨ends, begun, answers⟩ := turns.complete succeed
    have names := names_of_answers turns.genuine answers
    rw [begun] at names
    exact ⟨Option.some.inj ends, begun, names⟩
  first_fault earlier failing others fault split _ fails := by
    obtain ⟨_, ends, _⟩ := turns.failed split fails
    exact Option.some.inj ends
  stops _ earlier failing others fault split fails := by
    obtain ⟨last, _, begun, answers⟩ := turns.failed split fails
    exact ⟨last, begun, answers⟩
  in_turn _ := rfl
  failed_call_last _ _ _ _ _ split fails := turns.failed_call split fails
  all_begun := nofun

theorem map_ok_of_results {ends : List (Except Error ScenarioResult)}
    (succeed : ∀ answer ∈ ends, ∃ result, answer = .ok result) :
    (ends.filterMap Except.toOption).map .ok = ends := by
  induction ends with
  | nil => rfl
  | cons first rest ih =>
    obtain ⟨⟨result, rfl⟩, others⟩ := List.forall_mem_cons.mp succeed
    have handed : (Except.ok (ε := Error) result).toOption = some result := rfl
    rw [List.filterMap_cons_some handed, List.map_cons, ih others]

theorem results_of_answers {checks : List Checked} {ends : List (Except Error ScenarioResult)}
    (answers : checks.map Checked.answer = ends.map some)
    (succeed : ∀ check ∈ checks, ∃ result, check.answer = some (.ok result)) :
    ∀ answer ∈ ends, ∃ result, answer = .ok result := by
  intro answer member
  have listed : some answer ∈ checks.map Checked.answer := answers ▸ List.mem_map_of_mem member
  obtain ⟨check, inside, same⟩ := List.mem_map.mp listed
  obtain ⟨result, answered⟩ := succeed check inside
  rw [answered] at same
  exact ⟨result, (Option.some.inj same).symm⟩

theorem orderly_of_ends {scenarios : List Scenario} {checks : List Checked} {calls : List Event}
    {ends : List (Except Error ScenarioResult)}
    (genuine : ∀ check ∈ checks, check.Genuine setting)
    (planned : checks.map Checked.scenario = scenarios)
    (answers : checks.map Checked.answer = ends.map some)
    (told : Interleaved (checks.map Checked.calls) calls) (world : World σ) :
    Orderly setting true scenarios checks calls (ends.filterMap Except.toOption)
      (handOver announce ends world).1 where
  genuine := genuine
  ended check member := by
    have listed : check.answer ∈ ends.map some := answers ▸ List.mem_map_of_mem member
    obtain ⟨answer, _, same⟩ := List.mem_map.mp listed
    exact ⟨answer, same.symm⟩
  told := told
  results_eq := by
    have same := congrArg (List.filterMap fun answer => answer.bind Except.toOption) answers
    rw [List.filterMap_map, List.filterMap_map] at same
    exact same.symm
  complete succeed := by
    have results := results_of_answers answers succeed
    have named : checks.map Checked.answer =
        (ends.filterMap Except.toOption).map fun result => some (.ok result) := by
      have same := congrArg (List.map some) (map_ok_of_results results)
      rw [List.map_map] at same
      exact answers.trans same.symm
    have names := names_of_answers genuine named
    rw [planned] at names
    exact ⟨verdict_of_results announce results world, planned, names⟩
  first_fault earlier failing others fault split succeed fails := by
    rw [split, List.map_append, List.map_cons, fails] at answers
    obtain ⟨before, behind, rfl, first, last⟩ := List.map_eq_append_iff.mp answers.symm
    obtain ⟨answer, rest, rfl, same, _⟩ := List.map_eq_cons_iff.mp last
    cases same
    exact verdict_of_fault announce (results_of_answers first.symm succeed) world
  stops := nofun
  in_turn := nofun
  failed_call_last := nofun
  all_begun _ := planned

theorem inTurn_orderly {scenarios : List Scenario} {world after : World σ}
    {verdict : Except Error Unit}
    (ran : inTurn setting announce limit scenarios world = (some verdict, after)) :
    ∃ checks calls results, after.reported = world.reported ++ results ∧
      after.calls = world.calls ++ calls ∧
      Orderly setting false scenarios checks calls results verdict := by
  obtain ⟨checks, results, turns, reported, calls⟩ :=
    inTurn_goes setting announce limit scenarios world
  rw [ran] at turns reported calls
  exact ⟨checks, _, results, reported, calls, turns.orderly⟩

theorem atOnce_orderly {scenarios : List Scenario} {world after : World σ}
    {verdict : Except Error Unit}
    (ran : atOnce setting announce limit scenarios world = (some verdict, after)) :
    ∃ checks calls results, after.reported = world.reported ++ results ∧
      after.calls = world.calls ++ calls ∧
      Orderly setting true scenarios checks calls results verdict := by
  have quiet := Task.reported_together setting limit
    (scenarios.map fun scenario => Task.ready world.now (begin setting world scenario)) world
  rw [atOnce] at ran
  dsimp only at ran
  split at ran
  next => cases ran
  next ends settled finished =>
    rw [finished] at quiet
    obtain ⟨checks, calls, genuine, planned, answers, called, told⟩ :=
      together_checked setting _ scenarios world finished
    obtain ⟨same, handed⟩ := Prod.mk.inj ran
    rw [← Option.some.inj same, ← handed]
    refine ⟨checks, calls, _, ?_, ?_, orderly_of_ends announce genuine planned answers told settled⟩
    · rw [reported_handOver, quiet]
    · rw [calls_handOver, called]

theorem exists_first_fault {checks : List Checked}
    (ended : ∀ check ∈ checks, ∃ answer, check.answer = some answer) :
    (∀ check ∈ checks, ∃ result, check.answer = some (.ok result)) ∨
      ∃ earlier failing others fault, checks = earlier ++ failing :: others ∧
        (∀ check ∈ earlier, ∃ result, check.answer = some (.ok result)) ∧
        failing.answer = some (.error fault) := by
  induction checks with
  | nil => exact .inl (by simp)
  | cons check rest ih =>
    obtain ⟨⟨answer, answered⟩, others⟩ := List.forall_mem_cons.mp ended
    cases answer with
    | error fault => exact .inr ⟨[], check, rest, fault, rfl, by simp, answered⟩
    | ok result =>
      rcases ih others with succeed | ⟨earlier, failing, behind, fault, rfl, succeed, fails⟩
      · exact .inl (List.forall_mem_cons.mpr ⟨⟨result, answered⟩, succeed⟩)
      · exact .inr ⟨check :: earlier, failing, behind, fault, rfl,
          List.forall_mem_cons.mpr ⟨⟨result, answered⟩, succeed⟩, fails⟩

theorem Orderly.fault_cases {concurrent : Bool} {scenarios : List Scenario} {checks : List Checked}
    {calls : List Event} {results : List ScenarioResult} {fault : Error}
    (orderly : Orderly setting concurrent scenarios checks calls results (.error fault)) :
    (∃ scenario : Scenario, scenario.OwnFault fault) ∨
      ∃ call ∈ calls, call.fault? = some fault := by
  rcases exists_first_fault orderly.ended with
    succeed | ⟨earlier, failing, others, own, split, succeed, fails⟩
  · cases (orderly.complete succeed).1
  · cases orderly.first_fault earlier failing others own split succeed fails
    have listed : failing ∈ checks := by simp [split]
    obtain ⟨start, finish, course⟩ := orderly.genuine failing listed
    rcases Scenario.check_explains course with ⟨_, owned⟩ | ⟨other, last, decides⟩
    · exact .inl ⟨_, owned fault fails⟩
    · cases decides _ fails
      obtain ⟨before, call, same, _, failed⟩ := last.filter_isCall
      have member : call ∈ failing.calls := by simp [Checked.calls, same]
      exact .inr ⟨call, orderly.told.mem_iff.mpr ⟨_, List.mem_map_of_mem listed, member⟩, failed⟩

theorem fault_of_settled {options : RunOptions} {scenarios : List Scenario} {world : World σ}
    (settles : ¬ IsCutOff setting announce options scenarios world) :
    ∃ calls, (all setting announce options scenarios world).2.calls = world.calls ++ calls ∧
      ∀ fault, (all setting announce options scenarios world).1 = .error fault →
        (∃ scenario : Scenario, scenario.OwnFault fault) ∨
          ∃ call ∈ calls, call.fault? = some fault := by
  have ran := upTo_of_not_isCutOff settles
  cases concurrent : options.concurrent with
  | false =>
    rw [concurrent, upTo, if_neg Bool.false_ne_true] at ran
    obtain ⟨checks, calls, results, _, called, orderly⟩ := inTurn_orderly announce _ ran
    exact ⟨calls, called, fun fault failed => (failed ▸ orderly).fault_cases⟩
  | true =>
    rw [concurrent, upTo, if_pos rfl] at ran
    obtain ⟨checks, calls, results, _, called, orderly⟩ := atOnce_orderly announce _ ran
    exact ⟨calls, called, fun fault failed => (failed ▸ orderly).fault_cases⟩

/-- A run that is not cut off hands over each result once and in the order of the list. It stops at the
first error if its checks go one after another, and returns the first one in the list in any case. -/
theorem run_in_order (options : RunOptions) (scenarios : List Scenario) (world : World σ)
    (settles : ¬ IsCutOff setting announce options scenarios world) :
    ∃ checks calls results,
      (all setting announce options scenarios world).2.reported = world.reported ++ results ∧
      (all setting announce options scenarios world).2.calls = world.calls ++ calls ∧
      Orderly setting options.concurrent scenarios checks calls results
        (all setting announce options scenarios world).1 := by
  have ran := upTo_of_not_isCutOff settles
  cases concurrent : options.concurrent with
  | false =>
    rw [concurrent, upTo, if_neg Bool.false_ne_true] at ran
    exact inTurn_orderly announce _ ran
  | true =>
    rw [concurrent, upTo, if_pos rfl] at ran
    exact atOnce_orderly announce _ ran

end

namespace Sample

def setting : Setting Playback.State :=
  ⟨Playback.store, fun issued => ⟨.ofNat (issued + 1), .ofNat (issued + 1)⟩, fun now => ⟨now⟩⟩

/-- The first of two insertions fails, and the record of the other is processed at once. -/
def world : World Playback.State :=
  ⟨0, { insertions := [some "down"], scripts := [[{ reply := .ok (some ⟨true, 0, none⟩) }]] }, 0, []⟩

def scenarios : List Scenario :=
  [Spec.fill { name := "refused", kind := .immediate } {},
   Spec.fill { name := "accepted", kind := .broadcast } {}]

end Sample

open Sample in
theorem run_in_order_first_refused :
    ¬ IsCutOff setting (fun _ => []) { concurrent := true } scenarios world ∧
      ∃ checks calls results,
        (all setting (fun _ => []) { concurrent := true } scenarios world).2.reported =
          world.reported ++ results ∧
        (all setting (fun _ => []) { concurrent := true } scenarios world).2.calls =
          world.calls ++ calls ∧
        Orderly setting true scenarios checks calls results
          (all setting (fun _ => []) { concurrent := true } scenarios world).1 ∧
        (all setting (fun _ => []) { concurrent := true } scenarios world).2.reported.map
          ScenarioResult.name = ["accepted"] := by
  have ends : (upTo setting (fun _ => []) (some 15500000000) true scenarios world).1 =
      some (.error (.storeUnavailable "down")) := by cbv
  have settles : ¬ IsCutOff setting (fun _ => []) { concurrent := true } scenarios world := by
    intro cut
    have same := ends.symm.trans cut
    cases same
  obtain ⟨checks, calls, results, reported, called, orderly⟩ :=
    run_in_order (fun _ => []) { concurrent := true } scenarios world settles
  exact ⟨settles, checks, calls, results, reported, called, orderly, by cbv⟩

end Run

end DeliveryCheck
