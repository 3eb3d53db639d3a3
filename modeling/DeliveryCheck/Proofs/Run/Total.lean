import Mathlib.Algebra.Order.BigOperators.Group.List
import Mathlib.Data.List.Forall2
import DeliveryCheck.Proofs.Run.Budget
import DeliveryCheck.Proofs.Time.Parts

namespace DeliveryCheck

namespace Scenario

variable {scenario other : Scenario} {scenarios others : List Scenario}

def span (scenario : Scenario) : Nat :=
  scenario.delay.nanos + scenario.buffer.nanos + scenario.pace.timeout.nanos +
    scenario.pace.interval.nanos

def totalSpan (scenarios : List Scenario) : Nat := (scenarios.map span).sum

def largestSpan (scenarios : List Scenario) : Nat := (scenarios.map span).foldr max 0

/-- No wait of one scenario is longer than that of another. -/
structure NoLonger (scenario other : Scenario) : Prop where
  delay_le : scenario.delay ≤ other.delay
  buffer_le : scenario.buffer ≤ other.buffer
  timeout_le : scenario.pace.timeout ≤ other.pace.timeout
  interval_le : scenario.pace.interval ≤ other.pace.interval

theorem NoLonger.refl (scenario : Scenario) : scenario.NoLonger scenario :=
  ⟨Nat.le_refl _, Nat.le_refl _, Nat.le_refl _, Nat.le_refl _⟩

theorem NoLonger.span_le (shorter : scenario.NoLonger other) : scenario.span ≤ other.span :=
  Nat.add_le_add (Nat.add_le_add (Nat.add_le_add shorter.delay_le shorter.buffer_le)
    shorter.timeout_le) shorter.interval_le

theorem nanos_budget (scenario : Scenario) :
    scenario.budget.nanos = min scenario.span Duration.limit := by
  simp only [budget, Pace.budget, Duration.nanos_add, span]
  omega

@[simp] theorem totalSpan_cons : totalSpan (scenario :: scenarios) = scenario.span + totalSpan scenarios := by
  rw [totalSpan, List.map_cons, List.sum_cons, ← totalSpan]

@[simp] theorem largestSpan_cons :
    largestSpan (scenario :: scenarios) = max scenario.span (largestSpan scenarios) := rfl

theorem largestSpan_le_iff {bound : Nat} :
    largestSpan scenarios ≤ bound ↔ ∀ scenario ∈ scenarios, scenario.span ≤ bound := by
  induction scenarios with
  | nil => simp [largestSpan]
  | cons scenario rest ih => rw [largestSpan_cons, Nat.max_le, ih, List.forall_mem_cons]

theorem largestSpan_le_totalSpan (scenarios : List Scenario) :
    largestSpan scenarios ≤ totalSpan scenarios := by
  induction scenarios with
  | nil => exact Nat.le_refl _
  | cons scenario rest ih =>
    rw [largestSpan_cons, totalSpan_cons]
    omega

theorem totalSpan_perm (same : others.Perm scenarios) : totalSpan others = totalSpan scenarios :=
  (same.map span).sum_eq

theorem largestSpan_perm (same : others.Perm scenarios) :
    largestSpan others = largestSpan scenarios := by
  apply Nat.le_antisymm
  · rw [largestSpan_le_iff]
    exact fun scenario member => largestSpan_le_iff.mp (Nat.le_refl _) scenario (same.mem_iff.mp member)
  · rw [largestSpan_le_iff]
    exact fun scenario member => largestSpan_le_iff.mp (Nat.le_refl _) scenario (same.mem_iff.mpr member)

theorem spans_le (more : List.SublistForall₂ NoLonger scenarios others) :
    totalSpan scenarios ≤ totalSpan others ∧ largestSpan scenarios ≤ largestSpan others := by
  induction more with
  | nil => exact ⟨Nat.zero_le _, Nat.zero_le _⟩
  | cons shorter _ ih =>
    have longer := shorter.span_le
    simp only [totalSpan_cons, largestSpan_cons]
    omega
  | cons_right _ ih =>
    simp only [totalSpan_cons, largestSpan_cons]
    omega

theorem min_totalBudget (scenarios : List Scenario) (before : Nat) :
    min (before + totalBudget scenarios) Duration.limit =
      min (before + totalSpan scenarios) Duration.limit := by
  induction scenarios generalizing before with
  | nil => rfl
  | cons scenario rest ih =>
    have own := nanos_budget scenario
    have others := ih (before + scenario.budget.nanos)
    rw [totalBudget, totalSpan_cons]
    omega

theorem nanos_largestBudget (scenarios : List Scenario) (start : Duration) :
    ((scenarios.map budget).foldl max start).nanos =
      max start.nanos (min (largestSpan scenarios) Duration.limit) := by
  induction scenarios generalizing start with
  | nil => exact (Nat.max_eq_left (Nat.zero_le _)).symm
  | cons scenario rest ih =>
    rw [List.map_cons, List.foldl_cons, ih, Duration.nanos_max, nanos_budget, largestSpan_cons]
    omega

def budgetParts (scenario : Scenario) : Duration.Parts :=
  (scenario.delay.parts.add scenario.buffer.parts).add
    (scenario.pace.timeout.parts.add scenario.pace.interval.parts)

theorem parts_budget (scenario : Scenario) : scenario.budget.parts = scenario.budgetParts := by
  rw [budget, Pace.budget, Duration.parts_add, Duration.parts_add, Duration.parts_add, budgetParts]

end Scenario

namespace RunOptions

open Scenario (totalSpan largestSpan)

variable (options : RunOptions) (scenarios : List Scenario)

def scenarioSpan : Nat :=
  if options.concurrent then largestSpan scenarios else totalSpan scenarios

def budgetParts : Duration.Parts :=
  let budgets := scenarios.map Scenario.budgetParts
  (if options.concurrent then budgets.foldl Duration.Parts.later ⟨0, 0⟩
    else budgets.foldl Duration.Parts.add ⟨0, 0⟩).add options.grace.parts

theorem nanos_scenarioBudget :
    (options.scenarioBudget scenarios).nanos =
      min (options.scenarioSpan scenarios) Duration.limit := by
  rw [scenarioBudget, scenarioSpan]
  split
  · rw [Scenario.nanos_largestBudget]
    exact Nat.max_eq_right (Nat.zero_le _)
  · rw [Scenario.nanos_foldl_budget, Scenario.min_totalBudget, Duration.nanos_zero, Nat.zero_add]

theorem nanos_budget :
    (options.budget scenarios).nanos =
      min (options.grace.nanos + options.scenarioSpan scenarios) Duration.limit := by
  rw [budget, Duration.nanos_add, nanos_scenarioBudget]
  omega

theorem parts_budget : (options.budget scenarios).parts = options.budgetParts scenarios := by
  have spelled : scenarios.map Scenario.budgetParts =
      (scenarios.map Scenario.budget).map Duration.parts := by
    rw [List.map_map]
    exact List.map_congr_left fun scenario _ => (Scenario.parts_budget scenario).symm
  have zero : (⟨0, 0⟩ : Duration.Parts) = Duration.zero.parts := by rfl
  rw [budget, Duration.parts_add, budgetParts, spelled, zero, scenarioBudget]
  split
  · rw [Duration.parts_foldl Duration.parts_max]
  · rw [Duration.parts_foldl Duration.parts_add]

variable {options scenarios} {more : RunOptions} {others : List Scenario}

theorem budget_le_budget (grace : options.grace ≤ more.grace)
    (span : options.scenarioSpan scenarios ≤ more.scenarioSpan others) :
    options.budget scenarios ≤ more.budget others := by
  have total := Nat.add_le_add grace span
  rw [Duration.le_def, nanos_budget, nanos_budget]
  exact Nat.le_min_of_le_of_le (Nat.le_trans (Nat.min_le_left ..) total) (Nat.min_le_right ..)

theorem scenarioSpan_perm (same : others.Perm scenarios) :
    options.scenarioSpan others = options.scenarioSpan scenarios := by
  rw [scenarioSpan, scenarioSpan, Scenario.totalSpan_perm same, Scenario.largestSpan_perm same]

/-- However it is worked out, the budget of a run is the exact total of its waits, or the largest of them,
and of its grace, cut off once; it does not depend on the order of the scenarios, never gets less with more
of them or longer waits, and is never larger for scenarios that go together. -/
theorem budget_cut_off_once (concurrent : Bool) (grace : Duration) (scenarios : List Scenario) :
    (budget ⟨false, grace⟩ scenarios).nanos =
        min (grace.nanos + totalSpan scenarios) Duration.limit ∧
      (budget ⟨true, grace⟩ scenarios).nanos =
        min (grace.nanos + largestSpan scenarios) Duration.limit ∧
      (budget ⟨concurrent, grace⟩ scenarios).parts = budgetParts ⟨concurrent, grace⟩ scenarios ∧
      (∀ others, others.Perm scenarios →
        budget ⟨concurrent, grace⟩ others = budget ⟨concurrent, grace⟩ scenarios) ∧
      (∀ others longer, List.SublistForall₂ Scenario.NoLonger scenarios others → grace ≤ longer →
        budget ⟨concurrent, grace⟩ scenarios ≤ budget ⟨concurrent, longer⟩ others) ∧
      budget ⟨true, grace⟩ scenarios ≤ budget ⟨false, grace⟩ scenarios := by
  refine ⟨nanos_budget ⟨false, grace⟩ scenarios, nanos_budget ⟨true, grace⟩ scenarios,
    parts_budget _ scenarios, ?_, ?_, ?_⟩
  · intro others same
    apply Duration.eq_of_nanos_eq
    rw [nanos_budget, nanos_budget, scenarioSpan_perm same]
  · intro others longer more slack
    obtain ⟨total, largest⟩ := Scenario.spans_le more
    apply budget_le_budget slack
    cases concurrent with
    | false => exact total
    | true => exact largest
  · exact budget_le_budget (Nat.le_refl _) (Scenario.largestSpan_le_totalSpan scenarios)

namespace Sample

open Run.Sample (pair)

/-- The delay alone is the longest length, and the poll comes on top of it. -/
def endlessScenario : Scenario :=
  { Spec.fill { name := "endless", kind := .scheduled } {} with delay := .longest }

end Sample

open Sample Run.Sample in
theorem budget_cut_off_once_in_any_order :
    ((pair ++ [endlessScenario]).Perm (endlessScenario :: pair) ∧
        budget ⟨false, .ofSeconds 5⟩ (pair ++ [endlessScenario]) = .longest) ∧
      List.SublistForall₂ Scenario.NoLonger pair (endlessScenario :: pair) ∧
        budget ⟨false, .zero⟩ pair ≤ budget ⟨false, .ofSeconds 5⟩ (endlessScenario :: pair) := by
  have order : (pair ++ [endlessScenario]).Perm (endlessScenario :: pair) :=
    List.perm_append_singleton _ _
  have more : List.SublistForall₂ Scenario.NoLonger pair (endlessScenario :: pair) :=
    .cons_right (.cons (.refl _) (.cons (.refl _) .nil))
  obtain ⟨sum, _, _, reordered, _⟩ :=
    budget_cut_off_once false (.ofSeconds 5) (endlessScenario :: pair)
  have whole : budget ⟨false, .ofSeconds 5⟩ (endlessScenario :: pair) = .longest := by
    apply Duration.eq_of_nanos_eq
    rw [sum]
    decide
  obtain ⟨_, _, _, _, grows, _⟩ := budget_cut_off_once false .zero pair
  exact ⟨⟨order, (reordered _ order).trans whole⟩, more,
    grows _ (.ofSeconds 5) more (by decide)⟩

end RunOptions

end DeliveryCheck
