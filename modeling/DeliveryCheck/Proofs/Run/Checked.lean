import DeliveryCheck.Proofs.Run.Limit
import DeliveryCheck.Proofs.Run.Reports
import DeliveryCheck.Proofs.Scenario.Anatomy
import DeliveryCheck.Proofs.Scenario.Evidence

namespace DeliveryCheck

namespace World

variable {σ : Type} {world after : World σ} {story : List Event}

def calls (world : World σ) : List Event := world.history.reverse.filter Event.isCall

theorem calls_append (history : after.history = story.reverse ++ world.history) :
    after.calls = world.calls ++ story.filter Event.isCall := by
  rw [calls, calls, history, List.reverse_append, List.reverse_reverse, List.filter_append]

theorem calls_report (announce : ScenarioResult → List String) (result : ScenarioResult)
    (world : World σ) : (world.report announce result).calls = world.calls := by
  rw [calls_append (world.history_report announce result)]
  simp [Event.isCall]

end World

namespace Run

section

variable {σ : Type} {setting : Setting σ}

/-- A check that a run has begun: its events, and its end unless it is cut off. -/
structure Checked where
  scenario : Scenario
  story : List Event
  answer : Option (Except Error ScenarioResult)

namespace Checked

variable {check : Checked}

def Genuine (setting : Setting σ) (check : Checked) : Prop :=
  ∃ start ended, (check.scenario.check start (setting.wall start)).Course setting.identity start
    check.story ended check.answer

def calls (check : Checked) : List Event := check.story.filter Event.isCall

def result? (check : Checked) : Option ScenarioResult := check.answer.bind Except.toOption

theorem result?_eq_some_iff {result : ScenarioResult} :
    check.result? = some result ↔ check.answer = some (.ok result) := by
  obtain ⟨scenario, story, answer⟩ := check
  rcases answer with _ | (fault | other) <;> simp [result?, Except.toOption]

theorem Genuine.named {result : ScenarioResult} (genuine : check.Genuine setting)
    (ended : check.answer = some (.ok result)) :
    result.name = check.scenario.name ∧ result.kind = check.scenario.kind := by
  obtain ⟨start, finish, course⟩ := genuine
  rw [ended] at course
  obtain ⟨_, _, _, _, _, _, _, _, _, _, rfl⟩ := Scenario.check_course course
  exact ⟨rfl, rfl⟩

theorem Genuine.faults (genuine : check.Genuine setting) :
    (∀ call ∈ check.calls, call.fault? = none) ∨
      ∃ fault, Event.FaultLast check.calls fault ∧
        ∀ answer, check.answer = some answer → answer = .error fault := by
  obtain ⟨start, finish, course⟩ := genuine
  rcases Scenario.check_explains course with ⟨succeed, _⟩ | ⟨fault, last, decides⟩
  · exact .inl fun call member => succeed call (List.mem_of_mem_filter member)
  · exact .inr ⟨fault, last.filter_isCall, decides⟩

theorem Genuine.succeeds {result : ScenarioResult} (genuine : check.Genuine setting)
    (ended : check.answer = some (.ok result)) : ∀ call ∈ check.calls, call.fault? = none := by
  rcases genuine.faults with succeed | ⟨fault, _, decides⟩
  · exact succeed
  · cases decides _ ended

end Checked

/-- How checks go one after another: which of them are begun, what is handed over and how it ends. -/
inductive InTurn (setting : Setting σ) :
    List Scenario → List Checked → List ScenarioResult → Option (Except Error Unit) → Prop where
  | done : InTurn setting [] [] [] (some (.ok ()))
  | stopped {check rest} (genuine : check.Genuine setting) (failed : check.result? = none) :
    InTurn setting (check.scenario :: rest) [check] [] (check.answer.map (·.map fun _ => ()))
  | reported {check result rest checks results ended} (genuine : check.Genuine setting)
    (answered : check.answer = some (.ok result))
    (onward : InTurn setting rest checks results ended) :
    InTurn setting (check.scenario :: rest) (check :: checks) (result :: results) ended

namespace InTurn

variable {scenarios : List Scenario} {checks earlier others : List Checked} {failing : Checked}
  {results : List ScenarioResult} {ended : Option (Except Error Unit)} {verdict : Except Error Unit}
  {fault : Error}

theorem genuine (turns : InTurn setting scenarios checks results ended) :
    ∀ check ∈ checks, check.Genuine setting := by
  induction turns with
  | done => simp
  | stopped genuine => simpa using genuine
  | reported genuine _ _ ih => exact List.forall_mem_cons.mpr ⟨genuine, ih⟩

theorem planned (turns : InTurn setting scenarios checks results ended) :
    checks.map Checked.scenario <+: scenarios := by
  induction turns with
  | done => exact List.prefix_rfl
  | stopped => exact List.prefix_append [_] _
  | reported _ _ _ ih => exact (List.prefix_cons_inj _).mpr ih

theorem answered (turns : InTurn setting scenarios checks results (some verdict)) :
    ∀ check ∈ checks, ∃ answer, check.answer = some answer := by
  generalize ends : some verdict = ended at turns
  induction turns with
  | done => simp
  | @stopped check _ _ _ =>
    intro other member
    rw [List.mem_singleton.mp member]
    cases stopped : check.answer with
    | none =>
      rw [stopped] at ends
      cases ends
    | some answer => exact ⟨answer, rfl⟩
  | reported _ finished _ ih => exact List.forall_mem_cons.mpr ⟨⟨_, finished⟩, ih ends⟩

theorem results_eq (turns : InTurn setting scenarios checks results ended) :
    results = checks.filterMap Checked.result? := by
  induction turns with
  | done => rfl
  | stopped _ failed => rw [List.filterMap_cons_none failed, List.filterMap_nil]
  | reported _ answered _ ih =>
    rw [List.filterMap_cons_some (Checked.result?_eq_some_iff.mpr answered), ← ih]

theorem complete (turns : InTurn setting scenarios checks results ended)
    (succeed : ∀ check ∈ checks, ∃ result, check.answer = some (.ok result)) :
    ended = some (.ok ()) ∧ checks.map Checked.scenario = scenarios ∧
      checks.map Checked.answer = results.map fun result => some (.ok result) := by
  induction turns with
  | done => exact ⟨rfl, rfl, rfl⟩
  | @stopped check _ _ failed =>
    obtain ⟨result, answered⟩ := succeed check (List.mem_singleton_self _)
    rw [Checked.result?_eq_some_iff.mpr answered] at failed
    cases failed
  | reported _ answered _ ih =>
    obtain ⟨ends, begun, answers⟩ := ih (List.forall_mem_cons.mp succeed).2
    exact ⟨ends, by rw [List.map_cons, begun], by rw [List.map_cons, List.map_cons, answered, answers]⟩

theorem failed (turns : InTurn setting scenarios checks results ended)
    (split : checks = earlier ++ failing :: others) (fails : failing.answer = some (.error fault)) :
    others = [] ∧ ended = some (.error fault) ∧
      checks.map Checked.scenario = scenarios.take (earlier.length + 1) ∧
      earlier.map Checked.answer = results.map fun result => some (.ok result) := by
  induction turns generalizing earlier with
  | done => simp at split
  | @stopped check rest =>
    rcases List.cons_eq_append_iff.mp split with ⟨rfl, same⟩ | ⟨_, _, same⟩
    · cases same
      exact ⟨rfl, by rw [fails]; rfl, rfl, rfl⟩
    · simp at same
  | @reported check result rest checks results _ _ answered _ ih =>
    rcases List.cons_eq_append_iff.mp split with ⟨_, same⟩ | ⟨before, rfl, same⟩
    · cases same
      rw [answered] at fails
      cases fails
    · obtain ⟨last, ends, begun, answers⟩ := ih same
      refine ⟨last, ends, ?_, ?_⟩
      · rw [List.map_cons, begun, List.length_cons, List.take_succ_cons]
      · rw [List.map_cons, List.map_cons, answered, answers]

theorem faults (turns : InTurn setting scenarios checks results ended) :
    (∀ call ∈ (checks.map Checked.calls).flatten, call.fault? = none) ∨
      ∃ fault, Event.FaultLast (checks.map Checked.calls).flatten fault := by
  induction turns with
  | done => exact .inl (by simp)
  | stopped genuine =>
    rw [List.map_singleton, List.flatten_singleton]
    exact genuine.faults.imp_right fun ⟨fault, last, _⟩ => ⟨fault, last⟩
  | reported genuine answered _ ih =>
    have succeed := genuine.succeeds answered
    rw [List.map_cons, List.flatten_cons]
    rcases ih with others | ⟨fault, last⟩
    · exact .inl (List.forall_mem_append.mpr ⟨succeed, others⟩)
    · exact .inr ⟨fault, last.append succeed⟩

theorem failed_call (turns : InTurn setting scenarios checks results ended)
    {before behind : List Event} {call : Event}
    (split : (checks.map Checked.calls).flatten = before ++ call :: behind)
    (fails : call.fault? = some fault) : behind = [] := by
  rcases turns.faults with succeed | ⟨_, last⟩
  · have succeeds := succeed call (by simp [split])
    rw [succeeds] at fails
    cases fails
  · exact (last.is_last split fails).1

end InTurn

variable (setting) (announce : ScenarioResult → List String) (limit : Option Instant)

theorem alone_checked (scenario : Scenario) (world : World σ) :
    ∃ check : Checked, check.scenario = scenario ∧ check.Genuine setting ∧
      check.answer = ((begin setting world scenario).alone setting limit world).1 ∧
      ((begin setting world scenario).alone setting limit world).2.calls =
        world.calls ++ check.calls := by
  obtain ⟨story, course, history⟩ :=
    Procedure.alone_course setting limit (begin setting world scenario) world
  exact ⟨⟨scenario, story, _⟩, rfl, ⟨world.now, _, course⟩, rfl, World.calls_append history⟩

theorem inTurn_goes (scenarios : List Scenario) (world : World σ) :
    ∃ checks results,
      InTurn setting scenarios checks results
        (inTurn setting announce limit scenarios world).1 ∧
      (inTurn setting announce limit scenarios world).2.reported = world.reported ++ results ∧
      (inTurn setting announce limit scenarios world).2.calls =
        world.calls ++ (checks.map Checked.calls).flatten := by
  induction scenarios generalizing world with
  | nil => exact ⟨[], [], .done, (List.append_nil _).symm, (List.append_nil _).symm⟩
  | cons scenario rest ih =>
    obtain ⟨check, rfl, genuine, answered, called⟩ :=
      alone_checked setting limit scenario world
    have quiet :=
      Procedure.reported_alone setting limit (begin setting world check.scenario) world
    have stops (failed : check.result? = none) :
        InTurn setting (check.scenario :: rest) [check] [] (check.answer.map (·.map fun _ => ())) :=
      .stopped genuine failed
    rw [inTurn]
    split
    next after ends =>
      rw [ends] at quiet answered called
      rw [answered] at stops
      refine ⟨[check], [], stops ?_, ?_, ?_⟩
      · rw [Checked.result?, answered]
        rfl
      · rw [quiet, List.append_nil]
      · rw [called, List.map_singleton, List.flatten_singleton]
    next fault after ends =>
      rw [ends] at quiet answered called
      rw [answered] at stops
      refine ⟨[check], [], stops ?_, ?_, ?_⟩
      · rw [Checked.result?, answered]
        rfl
      · rw [quiet, List.append_nil]
      · rw [called, List.map_singleton, List.flatten_singleton]
    next result after ends =>
      rw [ends] at quiet answered called
      obtain ⟨checks, results, turns, reported, calls⟩ := ih (after.report announce result)
      refine ⟨check :: checks, result :: results, .reported genuine answered turns, ?_, ?_⟩
      · rw [reported, World.reported_report, quiet, List.append_assoc]
        rfl
      · rw [calls, World.calls_report, called, List.append_assoc]
        rfl

theorem calls_handOver (ends : List (Except Error ScenarioResult)) (world : World σ) :
    (handOver announce ends world).2.calls = world.calls := by
  induction ends generalizing world with
  | nil => rfl
  | cons first rest ih =>
    cases first with
    | error fault => exact ih world
    | ok result =>
      rw [handOver, ih]
      exact World.calls_report announce result world

theorem checked_of_lives {scenarios : List Scenario}
    {lives : List (Task.Life (Except Error ScenarioResult))}
    (paired : List.Forall₂ (fun life scenario => (Checked.mk scenario life.1 life.2).Genuine setting)
      lives scenarios) :
    ∃ checks : List Checked, (∀ check ∈ checks, check.Genuine setting) ∧
      checks.map Checked.scenario = scenarios ∧ checks.map Checked.answer = lives.map Prod.snd ∧
      checks.map Checked.calls = (lives.map Prod.fst).map (List.filter Event.isCall) := by
  induction paired with
  | nil => exact ⟨[], by simp, rfl, rfl, rfl⟩
  | @cons life scenario _ _ genuine _ ih =>
    obtain ⟨checks, others, planned, answers, calls⟩ := ih
    refine ⟨⟨scenario, life.1, life.2⟩ :: checks, List.forall_mem_cons.mpr ⟨genuine, others⟩, ?_, ?_, ?_⟩
    · rw [List.map_cons, planned]
    · rw [List.map_cons, List.map_cons, answers]
    · rw [List.map_cons, List.map_cons, List.map_cons, calls]
      rfl

theorem together_checked (scenarios : List Scenario) (world : World σ)
    {ends : List (Except Error ScenarioResult)} {after : World σ}
    (ran : Task.together setting limit
      (scenarios.map fun scenario => Task.ready world.now (begin setting world scenario)) world =
        (some ends, after)) :
    ∃ (checks : List Checked) (calls : List Event),
      (∀ check ∈ checks, check.Genuine setting) ∧
      checks.map Checked.scenario = scenarios ∧ checks.map Checked.answer = ends.map some ∧
      after.calls = world.calls ++ calls ∧ Interleaved (checks.map Checked.calls) calls := by
  obtain ⟨lives, told, live, whole, history, results⟩ := Task.together_course setting limit
    (scenarios.map fun scenario => Task.ready world.now (begin setting world scenario)) world
  rw [ran] at history results
  have paired : List.Forall₂ (fun (life : Task.Life (Except Error ScenarioResult)) scenario =>
      (Checked.mk scenario life.1 life.2).Genuine setting) lives scenarios := by
    rw [Task.Lives, List.forall₂_map_right_iff] at live
    refine live.imp fun life scenario course => ?_
    obtain ⟨ended, course⟩ := course.of_ready
    exact ⟨world.now, ended, course⟩
  obtain ⟨checks, genuine, planned, answers, calls⟩ := checked_of_lives setting paired
  refine ⟨checks, told.filter Event.isCall, genuine, planned, ?_, World.calls_append history, ?_⟩
  · rw [answers, results ends rfl]
  · rw [calls]
    exact whole.filter Event.isCall

end

end Run

end DeliveryCheck
