import DeliveryCheck.Proofs.Procedure.Single
import DeliveryCheck.Proofs.Procedure.Timely
import DeliveryCheck.Proofs.Scenario.Budget
import DeliveryCheck.Proofs.Run.Timeout

namespace DeliveryCheck

namespace Duration

theorem nanos_le_max {length : Duration} {lengths : List Duration} (start : Duration)
    (member : length = start ∨ length ∈ lengths) :
    length.nanos ≤ (lengths.foldl max start).nanos := by
  induction lengths generalizing length start with
  | nil =>
    rcases member with rfl | member
    · exact Nat.le_refl _
    · cases member
  | cons first rest ih =>
    have least := ih (max start first) (.inl rfl)
    rw [nanos_max] at least
    rw [List.foldl_cons]
    rcases member with rfl | member
    · exact Nat.le_trans (Nat.le_max_left ..) least
    · rcases List.mem_cons.mp member with rfl | member
      · exact Nat.le_trans (Nat.le_max_right ..) least
      · exact ih _ (.inr member)

end Duration

namespace Scenario

/-- The time that all budgets take one after another. -/
def totalBudget : List Scenario → Nat
  | [] => 0
  | scenario :: rest => scenario.budget.nanos + totalBudget rest

theorem nanos_foldl_budget (scenarios : List Scenario) (start : Duration) :
    ((scenarios.map budget).foldl (· + ·) start).nanos =
      min (start.nanos + totalBudget scenarios) Duration.limit := by
  induction scenarios generalizing start with
  | nil => exact (Nat.min_eq_left start.nanos_le).symm
  | cons scenario rest ih =>
    rw [List.map_cons, List.foldl_cons, ih, Duration.nanos_add, totalBudget]
    omega

theorem budget_le_total {scenario : Scenario} {scenarios : List Scenario}
    (member : scenario ∈ scenarios) : scenario.budget.nanos ≤ totalBudget scenarios := by
  induction scenarios with
  | nil => cases member
  | cons first rest ih =>
    rw [totalBudget]
    rcases List.mem_cons.mp member with rfl | member
    · exact Nat.le_add_right ..
    · exact Nat.le_trans (ih member) (Nat.le_add_left ..)

end Scenario

open Event (storeTime)

namespace Run

section

variable {σ : Type} (setting : Setting σ) (announce : ScenarioResult → List String)

def storiesInTurn : List Scenario → World σ → List (List Event)
  | [], _ => []
  | scenario :: rest, world =>
    let (ended, after) := (begin setting world scenario).alone setting none world
    after.since world ::
      match ended with
      | some (.ok result) => storiesInTurn rest (after.report announce result)
      | _ => []

/-- The events of each check that a run begins if no limit cuts it off. -/
def stories (concurrent : Bool) (scenarios : List Scenario) (world : World σ) : List (List Event) :=
  if concurrent then
    Task.stories setting none
      (scenarios.map fun scenario => .ready world.now (begin setting world scenario)) world
  else storiesInTurn setting announce scenarios world

theorem calls_storiesInTurn (scenarios : List Scenario) (world : World σ) :
    (inTurn setting announce none scenarios world).2.calls = world.calls ++
      ((storiesInTurn setting announce scenarios world).map (List.filter Event.isCall)).flatten := by
  induction scenarios generalizing world with
  | nil => exact (List.append_nil _).symm
  | cons scenario rest ih =>
    obtain ⟨story, _, history⟩ :=
      Procedure.alone_course setting none (begin setting world scenario) world
    have called := World.calls_append history
    rw [← World.since_eq history] at called
    rw [inTurn, storiesInTurn]
    split
    next after finished =>
      rw [finished] at called ⊢
      rw [called, List.map_singleton, List.flatten_singleton]
    next fault after finished =>
      rw [finished] at called ⊢
      rw [called, List.map_singleton, List.flatten_singleton]
    next result after finished =>
      rw [finished] at called ⊢
      rw [ih, World.calls_report, called, List.map_cons, List.flatten_cons, List.append_assoc]

theorem calls_stories (concurrent : Bool) (scenarios : List Scenario) (world : World σ) :
    ∃ calls, (upTo setting announce none concurrent scenarios world).2.calls = world.calls ++ calls ∧
      Interleaved ((stories setting announce concurrent scenarios world).map (List.filter Event.isCall))
        calls := by
  cases concurrent with
  | false => exact ⟨_, calls_storiesInTurn setting announce scenarios world, .of_flatten _⟩
  | true =>
    obtain ⟨lives, told, same, _, whole, history, _⟩ := Task.stories_course setting none
      (scenarios.map fun scenario => Task.ready world.now (begin setting world scenario)) world
    have called := World.calls_append history
    rw [same] at whole
    refine ⟨told.filter Event.isCall, ?_, whole.filter Event.isCall⟩
    rw [upTo, if_pos rfl, atOnce]
    dsimp only
    split
    next finished =>
      rw [finished] at called
      exact called
    next ends after finished =>
      rw [finished] at called
      rw [calls_handOver, called]

/-- The calls that begin before the budget of a run is used up take no longer than its grace: all of them
if the checks go one after another, and those of each check if they go together. -/
def CallsWithinGrace (options : RunOptions) (scenarios : List Scenario) (world : World σ) : Prop :=
  let bound := world.now + (options.budget scenarios).nanos
  let told := stories setting announce options.concurrent scenarios world
  if options.concurrent then ∀ story ∈ told, storeTime bound story ≤ options.grace.nanos
  else storeTime bound told.flatten ≤ options.grace.nanos

variable {setting announce} {bound limit due : Nat}

theorem alone_hasTime (setting : Setting σ) (scenario : Scenario) (world : World σ) (fits : bound < Instant.limit)
    (noticed : bound ≤ limit) (punctual : world.now ≤ due)
    (exact : scenario.budget.nanos < Duration.limit) {story : List Event}
    (told : ((begin setting world scenario).alone setting none world).2.since world = story)
    (within : due + scenario.budget.nanos + storeTime bound story ≤ bound) :
    (begin setting world scenario).alone setting (some limit) world =
        (begin setting world scenario).alone setting none world ∧
      ((begin setting world scenario).alone setting none world).2.now ≤
        due + scenario.budget.nanos + storeTime bound story := by
  have timely := scenario.check_timely world.now (setting.wall world.now)
  have covered : world.now + scenario.wait.nanos + scenario.pace.timeout.nanos ≤
      due + scenario.budget.nanos := by
    rw [Nat.add_assoc]
    exact Nat.add_le_add punctual (scenario.waits_le_budget exact)
  obtain ⟨events, _, history⟩ :=
    Procedure.alone_course setting none (begin setting world scenario) world
  rw [World.since_eq history] at told
  subst told
  have starts : world.now ≤ world.now + scenario.wait.nanos + scenario.pace.timeout.nanos :=
    Nat.le_trans (Nat.le_add_right ..) (Nat.le_add_right ..)
  obtain ⟨same, ends⟩ := timely.alone_eq starts fits noticed history
    (Nat.le_trans (Nat.add_le_add_right covered _) within)
  exact ⟨same, Nat.le_trans ends (Nat.add_le_add_right covered _)⟩

theorem inTurn_eq_of_hasTime (fits : bound < Instant.limit) (noticed : bound ≤ limit)
    (scenarios : List Scenario) (world : World σ) (punctual : world.now ≤ due)
    (exact : ∀ scenario ∈ scenarios, scenario.budget.nanos < Duration.limit)
    (within : due + Scenario.totalBudget scenarios +
      storeTime bound (storiesInTurn setting announce scenarios world).flatten ≤ bound) :
    inTurn setting announce (some limit) scenarios world =
      inTurn setting announce none scenarios world := by
  induction scenarios generalizing world due with
  | nil => rfl
  | cons scenario rest ih =>
    obtain ⟨own, others⟩ := List.forall_mem_cons.mp exact
    rw [storiesInTurn, Scenario.totalBudget] at within
    dsimp only at within
    rw [List.flatten_cons, Event.storeTime_append] at within
    obtain ⟨same, ends⟩ := alone_hasTime setting scenario world fits noticed
      punctual own rfl (by omega)
    rw [inTurn, inTurn, same]
    split
    next => rfl
    next => rfl
    next result after finished =>
      rw [finished] at within ends
      dsimp only at within ends
      have reported : (after.report announce result).now ≤ due + scenario.budget.nanos +
          storeTime bound (after.since world) := by
        rw [World.report_eq]
        exact ends
      exact ih (after.report announce result) reported others (by omega)

theorem atOnce_eq_of_hasTime (fits : bound < Instant.limit) (noticed : bound ≤ limit)
    (scenarios : List Scenario) (world : World σ)
    (exact : ∀ scenario ∈ scenarios, scenario.budget.nanos < Duration.limit)
    (within : ∀ scenario ∈ scenarios, ∀ story ∈ stories setting announce true scenarios world,
      world.now + scenario.budget.nanos + storeTime bound story ≤ bound) :
    atOnce setting announce (some limit) scenarios world =
      atOnce setting announce none scenarios world := by
  let tasks : List (Task σ (Except Error ScenarioResult)) :=
    scenarios.map fun scenario => .ready world.now (begin setting world scenario)
  have haveTime : List.Forall₂ (Task.HasTime bound) (Task.stories setting none tasks world) tasks := by
    rw [List.forall₂_iff_get]
    refine ⟨Task.length_stories setting none tasks world, fun index told listed => ?_⟩
    obtain ⟨scenario, member, same⟩ := List.mem_map.mp (List.get_mem tasks ⟨index, listed⟩)
    rw [← same]
    have covered := Nat.add_le_add_left (scenario.waits_le_budget (exact scenario member)) world.now
    have inTime := within scenario member _ (List.get_mem (Task.stories setting none tasks world) ⟨index, told⟩)
    rw [← Nat.add_assoc] at covered
    exact ⟨_, ⟨Nat.le_trans (Nat.le_add_right ..) (Nat.le_add_right ..),
      scenario.check_timely world.now (setting.wall world.now)⟩,
      Nat.le_trans (Nat.add_le_add_right covered _) inTime⟩
  rw [atOnce, atOnce, Task.together_eq_of_hasTime fits noticed haveTime]

theorem inTurn_unlimited (scenarios : List Scenario) (world : World σ) :
    (inTurn setting announce none scenarios world).1 ≠ none := by
  induction scenarios generalizing world with
  | nil => exact Option.some_ne_none _
  | cons scenario rest ih =>
    obtain ⟨answer, ended⟩ :=
      Procedure.alone_unlimited setting (begin setting world scenario) world
    rw [inTurn]
    split
    next finished =>
      rw [finished] at ended
      cases ended
    next => exact Option.some_ne_none _
    next => exact ih _

theorem atOnce_unlimited (scenarios : List Scenario) (world : World σ) :
    (atOnce setting announce none scenarios world).1 ≠ none := by
  obtain ⟨ends, finished⟩ := Task.together_unlimited setting
    (scenarios.map fun scenario => Task.ready world.now (begin setting world scenario)) world
  rw [atOnce]
  dsimp only
  split
  next cut =>
    rw [cut] at finished
    cases finished
  next => exact Option.some_ne_none _

theorem upTo_unlimited (concurrent : Bool) (scenarios : List Scenario) (world : World σ) :
    (upTo setting announce none concurrent scenarios world).1 ≠ none := by
  cases concurrent with
  | false => exact inTurn_unlimited scenarios world
  | true => exact atOnce_unlimited scenarios world

variable {options : RunOptions} {scenarios : List Scenario} {world : World σ}

theorem upTo_eq_of_callsWithinGrace
    (fits : world.now + (options.budget scenarios).nanos < Instant.limit)
    (quick : CallsWithinGrace setting announce options scenarios world) :
    upTo setting announce (some (options.deadline scenarios world.now)) options.concurrent scenarios
        world =
      upTo setting announce none options.concurrent scenarios world := by
  have bounded : (options.budget scenarios).nanos < Duration.limit := by
    have wide : Instant.limit ≤ Duration.limit := by decide
    exact Nat.lt_of_lt_of_le (Nat.lt_of_le_of_lt (Nat.le_add_left ..) fits) wide
  have noticed : world.now + (options.budget scenarios).nanos ≤
      options.deadline scenarios world.now := by
    rw [RunOptions.deadline, Instant.after_of_lt fits]
    exact Instant.le_roundUp _
  have total : (options.budget scenarios).nanos =
      (options.scenarioBudget scenarios).nanos + options.grace.nanos := by
    rw [RunOptions.budget, Duration.nanos_add] at bounded ⊢
    omega
  unfold CallsWithinGrace at quick
  cases mode : options.concurrent with
  | false =>
    rw [mode] at quick
    have sum : (options.scenarioBudget scenarios).nanos =
        min (0 + Scenario.totalBudget scenarios) Duration.limit := by
      rw [RunOptions.scenarioBudget, mode, if_neg Bool.false_ne_true]
      exact Scenario.nanos_foldl_budget scenarios .zero
    have exact : ∀ scenario ∈ scenarios, scenario.budget.nanos < Duration.limit := by
      intro scenario member
      have part := Scenario.budget_le_total member
      omega
    have told : storeTime (world.now + (options.budget scenarios).nanos)
        (storiesInTurn setting announce scenarios world).flatten ≤ options.grace.nanos := quick
    have waits : Scenario.totalBudget scenarios ≤ (options.scenarioBudget scenarios).nanos := by omega
    refine inTurn_eq_of_hasTime fits noticed scenarios world (Nat.le_refl _) exact ?_
    rw [total, Nat.add_assoc]
    rw [total] at told
    exact Nat.add_le_add_left (Nat.add_le_add waits told) _
  | true =>
    rw [mode, if_pos rfl] at quick
    have largest : ∀ scenario ∈ scenarios,
        scenario.budget.nanos ≤ (options.scenarioBudget scenarios).nanos := by
      intro scenario member
      rw [RunOptions.scenarioBudget, mode, if_pos rfl]
      exact Duration.nanos_le_max _ (.inr (List.mem_map_of_mem member))
    have exact : ∀ scenario ∈ scenarios, scenario.budget.nanos < Duration.limit := by
      intro scenario member
      have part := largest scenario member
      omega
    refine atOnce_eq_of_hasTime fits noticed scenarios world exact ?_
    intro scenario member story listed
    have part := largest scenario member
    have grace := quick story listed
    rw [total, Nat.add_assoc]
    rw [total] at grace
    exact Nat.add_le_add_left (Nat.add_le_add part grace) _

theorem storeTime_flatten {told : List (List Event)}
    (instant : ∀ story ∈ told, storeTime bound story = 0) : storeTime bound told.flatten = 0 := by
  induction told with
  | nil => rfl
  | cons story rest ih =>
    obtain ⟨own, others⟩ := List.forall_mem_cons.mp instant
    rw [List.flatten_cons, Event.storeTime_append, own, ih others]

theorem storeTime_storiesInTurn (announce : ScenarioResult → List String)
    (instantly : setting.store.Instantaneous)
    (fits : bound < Instant.limit) (scenarios : List Scenario) (world : World σ) :
    ∀ story ∈ storiesInTurn setting announce scenarios world, storeTime bound story = 0 := by
  induction scenarios generalizing world with
  | nil => exact fun _ member => nomatch member
  | cons scenario rest ih =>
    have single := Task.stories_single setting (begin setting world scenario) world
    have own := Task.storeTime_stories instantly fits
      [.ready world.now (begin setting world scenario)] world (by simp [Task.IsInstant])
    rw [single] at own
    rw [storiesInTurn]
    refine List.forall_mem_cons.mpr ⟨own _ (List.mem_singleton_self _), ?_⟩
    split
    · exact ih _
    · exact fun _ member => nomatch member

theorem callsWithinGrace_of_instantaneous (instantly : setting.store.Instantaneous)
    (fits : world.now + (options.budget scenarios).nanos < Instant.limit) :
    CallsWithinGrace setting announce options scenarios world := by
  unfold CallsWithinGrace
  cases mode : options.concurrent with
  | false =>
    have silent := storeTime_flatten
      (storeTime_storiesInTurn announce instantly fits scenarios world)
    exact Nat.le_trans (Nat.le_of_eq silent) (Nat.zero_le _)
  | true =>
    have instant := Task.storeTime_stories instantly fits
      (scenarios.map fun scenario => .ready world.now (begin setting world scenario)) world
      (by simp [Task.IsInstant])
    rw [if_pos rfl]
    intro story listed
    have silent := instant story listed
    exact Nat.le_trans (Nat.le_of_eq silent) (Nat.zero_le _)

/-- A run settles before its deadline if its calls of the store take no longer than its grace, as they do
if they take no time. It then returns the error for a deadline only if the store answers with it. -/
theorem settles_within_budget (options : RunOptions) (scenarios : List Scenario) (world : World σ)
    (fits : world.now + (options.budget scenarios).nanos < Instant.limit)
    (quick : CallsWithinGrace setting announce options scenarios world ∨
      setting.store.Instantaneous) :
    ¬ IsCutOff setting announce options scenarios world ∧
      ∃ calls,
        (all setting announce options scenarios world).2.calls = world.calls ++ calls ∧
        ∀ budget, (all setting announce options scenarios world).1 = .error (.runTimeout budget) →
          ∃ call ∈ calls, call.fault? = some (.runTimeout budget) := by
  have short : CallsWithinGrace setting announce options scenarios world :=
    quick.elim id fun instantly => callsWithinGrace_of_instantaneous instantly fits
  have unlimited := upTo_eq_of_callsWithinGrace fits short
  have settles : ¬ IsCutOff setting announce options scenarios world := by
    rw [IsCutOff, unlimited]
    exact upTo_unlimited _ _ _
  obtain ⟨calls, called, faults⟩ := fault_of_settled announce settles
  refine ⟨settles, calls, called, fun budget late => ?_⟩
  rcases faults _ late with ⟨scenario, own⟩ | failed
  · rcases own with same | same | same <;> cases same
  · exact failed

end

namespace Sample

/-- The reads of the first record use up the grace. -/
def slowWorld : World Playback.State :=
  ⟨0,
    { insertions := []
      scripts :=
        [[{ takes := .ofSeconds 3, reply := .ok (some .pending) },
            { takes := .ofSeconds 1, reply := .ok none },
            { takes := .ofMillis 500, reply := .ok (some ⟨true, 0, none⟩) }],
          [{ reply := .ok (some ⟨true, 0, none⟩) }]] },
    0, []⟩

end Sample

open Sample in
theorem settles_within_budget_slow_reads :
    (slowWorld.now + (({ concurrent := true } : RunOptions).budget pair).nanos < Instant.limit ∧
      CallsWithinGrace setting (fun _ => []) { concurrent := true } pair slowWorld) ∧
      ¬ IsCutOff setting (fun _ => []) { concurrent := true } pair slowWorld := by
  have fits : slowWorld.now + (({ concurrent := true } : RunOptions).budget pair).nanos <
      Instant.limit := by cbv
  have due : slowWorld.now + (({ concurrent := true } : RunOptions).budget pair).nanos =
      15500000000 := by cbv
  have grace : (Duration.ofSeconds 5).nanos = 5000000000 := by cbv
  have times : (stories setting (fun _ => []) true pair slowWorld).map (storeTime 15500000000) =
      [5000000000, 0] := by cbv
  have quick : CallsWithinGrace setting (fun _ => []) { concurrent := true } pair slowWorld := by
    unfold CallsWithinGrace
    rw [if_pos rfl, due, grace]
    intro story listed
    have member := List.mem_map_of_mem (f := storeTime 15500000000) listed
    rw [times] at member
    have longest : ∀ length ∈ [5000000000, 0], length ≤ 5000000000 := by decide
    exact longest _ member
  exact ⟨⟨fits, quick⟩, (settles_within_budget _ _ _ fits (.inl quick)).1⟩

end Run

end DeliveryCheck
