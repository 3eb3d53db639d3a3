import DeliveryCheck.Proofs.Run.Budget
import DeliveryCheck.Proofs.Run.Order
import DeliveryCheck.Proofs.Worker.Uniform

namespace DeliveryCheck.Worker

/-- Identities for some more records: different ones, each for a recipient other than everybody, and not
stored yet. -/
structure Fresh (identity : Nat → Identity) (world : World State) (count : Nat) : Prop where
  distinct : Distinct identity world.issued (world.issued + count)
  personal : ∀ number, world.issued ≤ number → number < world.issued + count →
    (identity number).recipient ≠ Uuid.everybody
  unknown : ∀ number, world.issued ≤ number → number < world.issued + count →
    world.state.find? (identity number).id = none

/-- A verdict that the check of a scenario leads to wherever it is started. -/
def Decides (script : Script) (scenario : Scenario) (verdict : ScenarioResult) : Prop :=
  ∀ origin : Origin, origin.Suits script scenario →
    Leads script origin.wall origin.who verdict.EndsAs
      (scenario.check origin.start (origin.wall origin.start)) origin.start none

section

variable {script : Script} {wall : Instant → Timestamp} {identity : Nat → Identity} {first top : Nat}
  {world : World State} {count : Nat} {scenarios : List Scenario} {verdicts : List ScenarioResult}
  (announce : ScenarioResult → List String)

theorem exists_verdicts
    (undelayed : ∀ scenario ∈ scenarios, scenario.kind ≠ .scheduled → scenario.delay = .zero)
    (countable : ∀ scenario ∈ scenarios, scenario.pace.IsCountable script.readLatency) :
    ∃ verdicts, List.Forall₂ (Decides script) scenarios verdicts := by
  induction scenarios with
  | nil => exact ⟨[], .nil⟩
  | cons scenario rest ih =>
    obtain ⟨ownDelay, otherDelays⟩ := List.forall_mem_cons.mp undelayed
    obtain ⟨ownPace, otherPaces⟩ := List.forall_mem_cons.mp countable
    obtain ⟨verdict, decides⟩ := check_uniform script ownDelay ownPace
    obtain ⟨verdicts, onward⟩ := ih otherDelays otherPaces
    exact ⟨verdict :: verdicts, .cons decides onward⟩

theorem Vacant.report (vacant : Vacant identity first top world count) (result : ScenarioResult) :
    Vacant identity first top (world.report announce result) count := by
  rw [World.report_eq]
  exact ⟨vacant.reachable, vacant.sound, vacant.begun, vacant.room, vacant.unknown⟩

theorem Decides.leads {verdict : ScenarioResult} {scenario : Scenario} {start : Instant}
    (decides : Decides script scenario verdict) (fits : Fits script wall start scenario)
    (personal : ∀ number, first ≤ number → number < top →
      (identity number).recipient ≠ Uuid.everybody) :
    ∀ number, first ≤ number → number < top →
      Leads script wall (identity number) verdict.EndsAs (scenario.check start (wall start)) start
        none :=
  fun number begun below => decides ⟨start, wall, identity number⟩ ⟨fits, personal number begun below⟩

theorem inTurn_isolated {bound : Instant} (unlimited : script.readBudget = none)
    (distinct : Distinct identity first top)
    (personal : ∀ number, first ≤ number → number < top →
      (identity number).recipient ≠ Uuid.everybody)
    (decided : List.Forall₂ (Decides script) scenarios verdicts)
    (fits : ∀ scenario ∈ scenarios, ∀ now, world.now ≤ now → now ≤ bound →
      Fits script wall now scenario)
    (begun : world.now ≤ bound) (vacant : Vacant identity first top world scenarios.length)
    (settles : (Run.inTurn ⟨store script wall, identity, wall⟩ announce (some bound) scenarios world).1 ≠
      none) :
    (Run.inTurn ⟨store script wall, identity, wall⟩ announce (some bound) scenarios world).1 =
        some (.ok ()) ∧
      ∃ results,
        (Run.inTurn ⟨store script wall, identity, wall⟩ announce (some bound) scenarios
          world).2.reported = world.reported ++ results ∧
        results.map ScenarioResult.anonymous = verdicts := by
  induction decided generalizing world with
  | nil => exact ⟨rfl, [], (List.append_nil _).symm, rfl⟩
  | @cons scenario verdict rest verdicts decides others ih =>
    let setting : Setting State := ⟨store script wall, identity, wall⟩
    obtain ⟨own, later⟩ := List.forall_mem_cons.mp fits
    rw [List.length_cons, Nat.add_comm] at vacant
    obtain ⟨_, ended, ends, ⟨result, rfl, anonymous⟩, onward⟩ := alone_leads unlimited distinct
      (decides.leads (own world.now (Nat.le_refl _) begun) personal) vacant
    have quiet := Procedure.reported_alone setting (some bound) (Run.begin setting world scenario) world
    have settled {answer : Except Error ScenarioResult} {after : World State}
        (ran : (Run.begin setting world scenario).alone setting (some bound) world =
          (some answer, after)) : some answer = some (.ok result) ∧ after = ended :=
      Prod.mk.inj (ran.symm.trans
        ((Procedure.alone_of_settled (congrArg Prod.fst ran)).1.symm.trans ends))
    revert settles
    rw [Run.inTurn]
    split
    next => exact fun settles => absurd rfl settles
    next fault after ran => cases (settled ran).1
    next answer after ran =>
      intro settles
      obtain ⟨_, forward, inTime⟩ := Procedure.alone_of_settled (congrArg Prod.fst ran)
      obtain ⟨same, rfl⟩ := settled ran
      cases same
      rw [ran] at quiet forward inTime
      have reported := World.reported_report announce result after
      rw [quiet] at reported
      have moved : (after.report announce result).now = after.now := by rw [World.report_eq]
      have ahead : after.now ≤ bound := by simpa [isCut] using inTime (by simpa [isCut] using begun)
      rw [← moved] at forward ahead
      obtain ⟨verdict, results, handed, anonymised⟩ := ih
        (fun scenario member now => later scenario member now ∘ Nat.le_trans forward) ahead
        (onward.report announce result) settles
      refine ⟨verdict, result :: results, ?_, ?_⟩
      · rw [handed, reported, List.append_assoc]
        rfl
      · rw [List.map_cons, anonymised, anonymous]

theorem results_of_ends {verdicts : List ScenarioResult} {ends : List (Except Error ScenarioResult)}
    (reached : List.Forall₂ (fun verdict answer => verdict.EndsAs answer) verdicts ends) :
    ∃ results : List ScenarioResult, ends = results.map .ok ∧ results.map ScenarioResult.anonymous = verdicts := by
  induction reached with
  | nil => exact ⟨[], rfl, rfl⟩
  | cons first _ ih =>
    obtain ⟨result, rfl, rfl⟩ := first
    obtain ⟨results, rfl, rfl⟩ := ih
    exact ⟨result :: results, rfl, rfl⟩

theorem atOnce_isolated {limit : Option Instant} (unlimited : script.readBudget = none)
    (distinct : Distinct identity first top)
    (personal : ∀ number, first ≤ number → number < top →
      (identity number).recipient ≠ Uuid.everybody)
    (decided : List.Forall₂ (Decides script) scenarios verdicts)
    (fits : ∀ scenario ∈ scenarios, Fits script wall world.now scenario)
    (vacant : Vacant identity first top world scenarios.length)
    (settles : (Run.atOnce ⟨store script wall, identity, wall⟩ announce limit scenarios world).1 ≠
      none) :
    (Run.atOnce ⟨store script wall, identity, wall⟩ announce limit scenarios world).1 =
        some (.ok ()) ∧
      ∃ results,
        (Run.atOnce ⟨store script wall, identity, wall⟩ announce limit scenarios world).2.reported =
          world.reported ++ results ∧
        results.map ScenarioResult.anonymous = verdicts := by
  let setting : Setting State := ⟨store script wall, identity, wall⟩
  have leads : List.Forall₂ (fun procedure goal => ∀ number, first ≤ number → number < top →
      Leads script wall (identity number) goal procedure world.now none)
      (scenarios.map (Run.begin setting world)) (verdicts.map ScenarioResult.EndsAs) := by
    rw [List.forall₂_map_left_iff, List.forall₂_map_right_iff]
    exact ((List.forall₂_and_left _ _).mpr ⟨fits, decided⟩).imp
      fun _ _ ⟨fits, decides⟩ => decides.leads fits personal
  have room : Vacant identity first top world ((scenarios.map (Run.begin setting world)).length + 0) := by
    rw [List.length_map]
    exact vacant
  obtain ⟨ends, after, finished, reached, _⟩ := together_leads unlimited distinct leads room
  rw [List.map_map] at finished
  rw [List.forall₂_map_left_iff] at reached
  obtain ⟨results, rfl, anonymous⟩ := results_of_ends reached
  have quiet := Task.reported_together setting limit
    (scenarios.map fun scenario => Task.ready world.now (Run.begin setting world scenario)) world
  have settled {ended : List (Except Error ScenarioResult)} {last : World State}
      (ran : Task.together setting limit
        (scenarios.map fun scenario => Task.ready world.now (Run.begin setting world scenario)) world =
          (some ended, last)) : some ended = some (results.map .ok) ∧ last = after :=
    Prod.mk.inj (ran.symm.trans
      ((Task.together_of_settled (congrArg Prod.fst ran)).symm.trans finished))
  revert settles
  rw [Run.atOnce]
  dsimp only
  split
  next => exact fun settles => absurd rfl settles
  next ended last ran =>
    obtain ⟨same, rfl⟩ := settled ran
    cases same
    rw [ran] at quiet
    have succeed : ∀ answer ∈ (results.map .ok : List (Except Error ScenarioResult)),
        ∃ result, answer = .ok result := by simp
    have handed : (results.map .ok : List (Except Error ScenarioResult)).filterMap Except.toOption =
        results := by
      rw [List.filterMap_map]
      exact List.filterMap_some
    refine fun _ => ⟨congrArg some (Run.verdict_of_results announce succeed last), results, ?_, anonymous⟩
    rw [Run.reported_handOver, quiet, handed]

theorem Fresh.vacant (fresh : Fresh identity world count) (reachable : world.state.isReachable)
    (sound : world.state.poisoned = false) :
    Vacant identity world.issued (world.issued + count) world count :=
  ⟨reachable, sound, Nat.le_refl _, Nat.le_refl _, fresh.unknown⟩

theorem upTo_isolated {bound : Instant} (concurrent : Bool) (unlimited : script.readBudget = none)
    (distinct : Distinct identity first top)
    (personal : ∀ number, first ≤ number → number < top →
      (identity number).recipient ≠ Uuid.everybody)
    (decided : List.Forall₂ (Decides script) scenarios verdicts)
    (fits : ∀ scenario ∈ scenarios, ∀ now, world.now ≤ now → now ≤ bound →
      Fits script wall now scenario)
    (begun : world.now ≤ bound) (vacant : Vacant identity first top world scenarios.length)
    (settles : (Run.upTo ⟨store script wall, identity, wall⟩ announce (some bound) concurrent scenarios
      world).1 ≠ none) :
    (Run.upTo ⟨store script wall, identity, wall⟩ announce (some bound) concurrent scenarios world).1 =
        some (.ok ()) ∧
      ∃ results,
        (Run.upTo ⟨store script wall, identity, wall⟩ announce (some bound) concurrent scenarios
          world).2.reported = world.reported ++ results ∧
        results.map ScenarioResult.anonymous = verdicts := by
  cases concurrent with
  | false =>
    exact inTurn_isolated announce unlimited distinct personal decided fits begun vacant settles
  | true =>
    have fits := fun scenario member => fits scenario member world.now (Nat.le_refl _) begun
    exact atOnce_isolated announce unlimited distinct personal decided fits vacant settles

theorem Decides.alone {scenario : Scenario} {verdict : ScenarioResult}
    (decides : Decides script scenario verdict) (unlimited : script.readBudget = none)
    {start : Instant} (fits : Fits script wall start scenario)
    (personal : (identity 0).recipient ≠ Uuid.everybody) :
    ∃ result after,
      (Run.begin ⟨store script wall, identity, wall⟩ ⟨start, {}, 0, []⟩ scenario).alone
          ⟨store script wall, identity, wall⟩ none ⟨start, {}, 0, []⟩ = (some (.ok result), after) ∧
        result.anonymous = verdict := by
  have single : ∀ {number}, number < 1 → number = 0 := Nat.lt_one_iff.mp
  have distinct : Distinct identity 0 1 :=
    fun m n _ one _ other _ => (single one).trans (single other).symm
  have vacant : Vacant identity 0 1 (⟨start, {}, 0, []⟩ : World State) (1 + 0) :=
    ⟨rfl, rfl, Nat.le_refl _, Nat.le_refl _, fun _ _ _ => rfl⟩
  have leads := decides.leads fits fun number (_ : 0 ≤ number) (below : number < 1) =>
    (single below).symm ▸ personal
  obtain ⟨_, after, ends, ⟨result, rfl, same⟩, _⟩ := alone_leads unlimited distinct leads vacant
  exact ⟨result, after, ends, same⟩

theorem exists_own (unlimited : script.readBudget = none) {start : Instant}
    (personal : (identity 0).recipient ≠ Uuid.everybody)
    (decided : List.Forall₂ (Decides script) scenarios verdicts)
    (fits : ∀ scenario ∈ scenarios, Fits script wall start scenario) :
    ∃ own : List ScenarioResult,
      List.Forall₂ (fun scenario result =>
          ((Run.begin ⟨store script wall, identity, wall⟩ ⟨start, {}, 0, []⟩ scenario).alone
            ⟨store script wall, identity, wall⟩ none ⟨start, {}, 0, []⟩).1 = some (.ok result))
        scenarios own ∧
      own.map ScenarioResult.anonymous = verdicts := by
  induction decided with
  | nil => exact ⟨[], .nil, rfl⟩
  | cons decides _ ih =>
    obtain ⟨first, others⟩ := List.forall_mem_cons.mp fits
    obtain ⟨result, after, ends, rfl⟩ := decides.alone unlimited first personal
    obtain ⟨own, alone, rfl⟩ := ih others
    exact ⟨result :: own, .cons (congrArg Prod.fst ends) alone, rfl⟩

/-- Every result of a run is, but for the identifier, the one that its scenario has alone on a fresh
store, in whichever mode it is run. -/
theorem verdicts_isolated (script : Script) (scenarios : List Scenario)
    (wall ownWall : Instant → Timestamp) (identity ownIdentity : Nat → Identity) (start : Instant)
    (world : World State) (announce : ScenarioResult → List String)
    (resolved : ∀ scenario ∈ scenarios, ∃ (spec : Spec) (polling : PollingConfig),
      spec.resolve polling = .ok scenario)
    (countable : ∀ scenario ∈ scenarios, scenario.pace.IsCountable script.readLatency)
    (unlimited : script.readBudget = none) (reachable : world.state.isReachable)
    (sound : world.state.poisoned = false) (fresh : Fresh identity world scenarios.length)
    (ownPersonal : (ownIdentity 0).recipient ≠ Uuid.everybody)
    (ownFits : ∀ scenario ∈ scenarios, Fits script ownWall start scenario) :
    ∃ own : List ScenarioResult,
      List.Forall₂ (fun scenario result =>
          ((Run.begin ⟨store script ownWall, ownIdentity, ownWall⟩ ⟨start, {}, 0, []⟩ scenario).alone
            ⟨store script ownWall, ownIdentity, ownWall⟩ none ⟨start, {}, 0, []⟩).1 =
              some (.ok result))
        scenarios own ∧
      ∀ options : RunOptions,
        (∀ scenario ∈ scenarios, ∀ now, world.now ≤ now →
          now ≤ options.deadline scenarios world.now → Fits script wall now scenario) →
        ¬ Run.IsCutOff ⟨store script wall, identity, wall⟩ announce options scenarios world →
        (Run.all ⟨store script wall, identity, wall⟩ announce options scenarios world).1 = .ok () ∧
        ∃ results,
          (Run.all ⟨store script wall, identity, wall⟩ announce options scenarios world).2.reported =
            world.reported ++ results ∧
          results.map ScenarioResult.anonymous = own.map ScenarioResult.anonymous := by
  have undelayed : ∀ scenario ∈ scenarios, scenario.kind ≠ .scheduled → scenario.delay = .zero := by
    intro scenario member
    obtain ⟨spec, polling, resolved⟩ := resolved scenario member
    obtain ⟨rfl, _⟩ := Spec.resolve_ok resolved
    exact Spec.delay_of_unscheduled
  obtain ⟨verdicts, decided⟩ := exists_verdicts undelayed countable
  obtain ⟨own, alone, anonymous⟩ := exists_own unlimited ownPersonal decided ownFits
  refine ⟨own, alone, fun options fits settles => ?_⟩
  have begun := Run.now_le_deadline options scenarios world.now
  have isolated := upTo_isolated announce options.concurrent unlimited fresh.distinct fresh.personal
    decided fits begun (fresh.vacant reachable sound) settles
  rw [Run.upTo_of_not_isCutOff settles] at isolated
  obtain ⟨verdict, results, reported, same⟩ := isolated
  exact ⟨Option.some.inj verdict, results, reported, same.trans anonymous.symm⟩

end

theorem store_instantaneous (wall : Instant → Timestamp) (instantly : script.readLatency = .zero) :
    (store script wall).Instantaneous where
  insert _ _ _ := rfl
  read _ _ _ := by
    dsimp only [store]
    split
    · exact instantly
    · rfl

namespace Sample

/-- Takes the records for one recipient back, and is late with those for everybody. -/
def moodyScript : Script :=
  { behavior := .flapping (.ofMillis 700), broadcast := some (.honor (.ofMillis 1200)) }

def builtins : List Scenario := Spec.builtin.map fun spec => spec.fill {}

theorem builtins_resolve : ∀ scenario ∈ builtins, ∃ spec : Spec, spec.resolve {} = .ok scenario := by
  intro scenario member
  obtain ⟨spec, listed, rfl⟩ := List.mem_map.mp member
  have all : ∀ spec ∈ Spec.builtin, spec.resolve {} = .ok (spec.fill {}) := by decide
  exact ⟨spec, all spec listed⟩

theorem builtins_fit {now : Nat} (soon : now ≤ 50000000000) :
    ∀ scenario ∈ builtins, Fits moodyScript wall now scenario := by
  intro scenario member
  have horizons : ∀ scenario ∈ builtins, scenario.horizon .zero ≤ 20000000000 := by decide
  have latencies : ∀ scenario ∈ builtins, scenario.delay.nanos +
      (moodyScript.treatment scenario.kind).latency.nanos ≤ 20000000000 := by decide
  have horizon := horizons scenario member
  have latency := latencies scenario member
  have far : 70000000000 < Instant.limit ∧ 70000000000 ≤ Timestamp.last.nanos ∧
    20000000000 ≤ Timestamp.longestDelay := by decide
  refine ⟨?_, ?_, ?_⟩
  · unfold Scenario.record?
    split
    · exact ⟨_, rfl⟩
    · exact ⟨_, rfl⟩
    · have due : (wall now).after? scenario.delay = some ⟨now + scenario.delay.nanos⟩ := by
        rw [wall, Timestamp.after?, if_pos]
        dsimp only
        omega
      rw [due]
      exact ⟨_, rfl⟩
  · exact Nat.lt_of_le_of_lt (Nat.add_le_add soon horizon) far.1
  · rw [Nat.add_assoc]
    exact Nat.lt_of_le_of_lt (Nat.add_le_add soon latency) far.1

theorem builtins_fresh : Fresh identity world builtins.length := by
  have differ : ∀ m < 3, ∀ n < 3, (identity m).id = (identity n).id → m = n := by decide
  have personal : ∀ n < 3, (identity n).recipient ≠ Uuid.everybody := by decide
  exact ⟨fun m n _ first _ second => differ m first n second, fun n _ below => personal n below,
    fun _ _ _ => rfl⟩

theorem builtins_settle (concurrent : Bool) :
    ¬ Run.IsCutOff ⟨store moodyScript wall, identity, wall⟩ (fun _ => [])
      { concurrent := concurrent } builtins world := by
  have fits : world.now + (RunOptions.budget { concurrent := concurrent } builtins).nanos <
      Instant.limit := by cases concurrent <;> decide
  have quick : Run.CallsWithinGrace ⟨store moodyScript wall, identity, wall⟩ (fun _ => [])
      { concurrent := concurrent } builtins world :=
    Run.callsWithinGrace_of_instantaneous (store_instantaneous wall rfl) fits
  rw [Run.IsCutOff, Run.upTo_eq_of_callsWithinGrace fits quick]
  exact Run.upTo_unlimited _ _ _

end Sample

open Sample in
theorem verdicts_isolated_both_modes :
    ∃ own : List ScenarioResult,
      List.Forall₂ (fun scenario result =>
          ((Run.begin ⟨store moodyScript wall, identity, wall⟩ ⟨3000000000, {}, 0, []⟩ scenario).alone
            ⟨store moodyScript wall, identity, wall⟩ none ⟨3000000000, {}, 0, []⟩).1 =
              some (.ok result))
        builtins own ∧
      ∀ concurrent,
        ¬ Run.IsCutOff ⟨store moodyScript wall, identity, wall⟩ (fun _ => [])
          { concurrent := concurrent } builtins world ∧
        ∃ results,
          (Run.all ⟨store moodyScript wall, identity, wall⟩ (fun _ => [])
            { concurrent := concurrent } builtins world).2.reported = results ∧
          results.map ScenarioResult.anonymous = own.map ScenarioResult.anonymous := by
  have resolved : ∀ scenario ∈ builtins, ∃ (spec : Spec) (polling : PollingConfig),
      spec.resolve polling = .ok scenario := by
    intro scenario member
    obtain ⟨spec, resolves⟩ := builtins_resolve scenario member
    exact ⟨spec, {}, resolves⟩
  have countable : ∀ scenario ∈ builtins, scenario.pace.IsCountable moodyScript.readLatency := by
    intro scenario member
    obtain ⟨spec, resolves⟩ := builtins_resolve scenario member
    have checked : (Config.polling {}).Checked := Config.polling_checked (by decide)
    exact (Spec.resolve_bounded checked resolves).isCountable _
  obtain ⟨own, alone, both⟩ := verdicts_isolated moodyScript builtins wall wall identity identity
    3000000000 world (fun _ => []) resolved countable rfl rfl rfl builtins_fresh (by decide)
    (builtins_fit (by decide))
  refine ⟨own, alone, fun concurrent => ⟨builtins_settle concurrent, ?_⟩⟩
  have deadline : RunOptions.deadline { concurrent := concurrent } builtins world.now ≤ 50000000000 := by
    cases concurrent <;> decide
  obtain ⟨_, results, reported, same⟩ := both { concurrent := concurrent }
    (fun scenario member now _ late => builtins_fit (Nat.le_trans late deadline) scenario member)
    (builtins_settle concurrent)
  exact ⟨results, reported, same⟩

end DeliveryCheck.Worker
