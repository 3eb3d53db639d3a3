import DeliveryCheck.Proofs.Scenario.Faults
import DeliveryCheck.Proofs.Text.LetterCase

namespace DeliveryCheck

theorem isBlankText_iff {text : String} :
    isBlankText text = true ↔ ¬ ∃ c ∈ text.toList, isBlank c = false := by
  rw [isBlankText, List.all_eq_true]
  simp

namespace Spec

/-- The name of a spec is on a list up to the case of ASCII letters, or the list is empty. -/
def Wanted (only : List String) (spec : Spec) : Prop :=
  only = [] ∨ ∃ name ∈ only, LetterCase.SameName name spec.name

/-- The waits that a scenario is to have, in nanoseconds. -/
structure Timings where
  timeout : Nat
  interval : Nat
  delay : Nat
  buffer : Nat

/-- What a spec says itself, and otherwise what the settings say for its kind; only a scheduled one has a
delay and a buffer. -/
def timings (spec : Spec) (polling : PollingConfig) : Timings :=
  match spec.kind with
  | .scheduled =>
    { timeout := (spec.timeoutSecs.getD polling.scheduledTimeoutSecs).toNat * second
      interval := (spec.intervalMillis.getD polling.intervalMillis).toNat * millisecond
      delay := (spec.delaySecs.getD polling.scheduledDelaySecs).toNat * second
      buffer := (spec.bufferSecs.getD polling.scheduledBufferSecs).toNat * second }
  | .immediate | .broadcast =>
    { timeout := (spec.timeoutSecs.getD polling.timeoutSecs).toNat * second
      interval := (spec.intervalMillis.getD polling.intervalMillis).toNat * millisecond
      delay := 0
      buffer := 0 }

def day : Nat := 24 * 3600 * second

/-- What a spec has to satisfy to resolve. -/
structure Sound (spec : Spec) (polling : PollingConfig) : Prop where
  named : ∃ c ∈ spec.name.toList, isBlank c = false
  timeout_ne_zero : spec.timeoutSecs ≠ some 0
  interval_ne_zero : spec.intervalMillis ≠ some 0
  delay_of_unscheduled : spec.kind ≠ .scheduled → spec.delaySecs = none
  buffer_of_unscheduled : spec.kind ≠ .scheduled → spec.bufferSecs = none
  timeout_le : (spec.timings polling).timeout ≤ day
  interval_le : (spec.timings polling).interval ≤ day
  delay_le : (spec.timings polling).delay ≤ day
  buffer_le : (spec.timings polling).buffer ≤ day

variable {spec : Spec} {polling : PollingConfig} {specs : List Spec} {only others : List String}
  {scenario : Scenario} {scenarios : List Scenario} {fault : Error}

theorem isWanted_iff : isWanted only spec = true ↔ Wanted only spec := by
  rw [isWanted, Bool.or_eq_true, List.isEmpty_iff, List.any_eq_true, Wanted]
  simp only [sameName_iff]

instance (only : List String) (spec : Spec) : Decidable (Wanted only spec) :=
  decidable_of_iff (isWanted only spec = true) isWanted_iff

theorem select_eq (specs : List Spec) (only : List String) :
    select specs only = specs.filter fun spec => Wanted only spec :=
  List.filter_congr fun spec _ => by
    rw [Bool.eq_iff_iff, isWanted_iff, decide_eq_true_eq]

theorem select_eq_nil_iff : select specs only = [] ↔ ∀ spec ∈ specs, ¬ Wanted only spec := by
  rw [select_eq, List.filter_eq_nil_iff]
  simp only [decide_eq_true_eq]

theorem wanted_congr (same : ∀ name, name ∈ others ↔ name ∈ only) (spec : Spec) :
    Wanted others spec ↔ Wanted only spec := by
  have empty : others = [] ↔ only = [] := by
    simp only [List.eq_nil_iff_forall_not_mem, same]
  rw [Wanted, Wanted, empty]
  simp only [same]

theorem select_congr (same : ∀ name, name ∈ others ↔ name ∈ only) (specs : List Spec) :
    select specs others = select specs only := by
  rw [select_eq, select_eq]
  exact List.filter_congr fun spec _ => by rw [decide_eq_decide, wanted_congr same]

theorem select_drop {before after : List Spec} (unwanted : ¬ Wanted only spec) :
    select (before ++ spec :: after) only = select (before ++ after) only := by
  rw [select_eq, select_eq, List.filter_append, List.filter_append,
    List.filter_cons_of_neg (by simpa using unwanted)]

theorem nanos_timings (spec : Spec) (polling : PollingConfig) :
    (spec.timeout polling).nanos = (spec.timings polling).timeout ∧
      (spec.interval polling).nanos = (spec.timings polling).interval ∧
      (spec.delay polling).nanos = (spec.timings polling).delay ∧
      (spec.buffer polling).nanos = (spec.timings polling).buffer := by
  cases kind : spec.kind <;>
    simp [timeout, interval, delay, buffer, timings, isScheduled, kind, Duration.nanos_ofSeconds,
      Duration.nanos_ofMillis]

theorem waits_le_iff :
    (∀ wait ∈ spec.waits polling, wait.2 ≤ longestWait) ↔
      (spec.timings polling).timeout ≤ day ∧ (spec.timings polling).interval ≤ day ∧
        (spec.timings polling).delay ≤ day ∧ (spec.timings polling).buffer ≤ day := by
  have cap : longestWait.nanos = day := by decide
  obtain ⟨timeout, interval, delay, buffer⟩ := nanos_timings spec polling
  simp only [waits, List.forall_mem_cons, Duration.le_def, cap, timeout, interval, delay, buffer]
  simp

theorem hasZeroTiming_eq_false_iff :
    spec.hasZeroTiming = false ↔ spec.timeoutSecs ≠ some 0 ∧ spec.intervalMillis ≠ some 0 := by
  rw [hasZeroTiming, Bool.or_eq_false_iff, decide_eq_false_iff_not, decide_eq_false_iff_not, and_comm]

theorem hasStrayDelay_eq_false_iff :
    spec.hasStrayDelay = false ↔
      (spec.kind ≠ .scheduled → spec.delaySecs = none ∧ spec.bufferSecs = none) := by
  by_cases scheduled : spec.kind = .scheduled <;> simp [hasStrayDelay, isScheduled, scheduled]

theorem sound_iff :
    spec.Sound polling ↔
      isBlankText spec.name = false ∧ spec.hasZeroTiming = false ∧ spec.hasStrayDelay = false ∧
        ∀ wait ∈ spec.waits polling, wait.2 ≤ longestWait := by
  rw [← Bool.not_eq_true, isBlankText_iff, not_not, hasZeroTiming_eq_false_iff,
    hasStrayDelay_eq_false_iff, waits_le_iff]
  constructor
  · intro sound
    exact ⟨sound.named, ⟨sound.timeout_ne_zero, sound.interval_ne_zero⟩,
      fun other => ⟨sound.delay_of_unscheduled other, sound.buffer_of_unscheduled other⟩,
      sound.timeout_le, sound.interval_le, sound.delay_le, sound.buffer_le⟩
  · rintro ⟨named, ⟨timeout, interval⟩, stray, timeout_le, interval_le, delay_le, buffer_le⟩
    exact ⟨named, timeout, interval, fun other => (stray other).1, fun other => (stray other).2,
      timeout_le, interval_le, delay_le, buffer_le⟩

theorem resolve_eq_ok_iff :
    spec.resolve polling = .ok scenario ↔ spec.Sound polling ∧ scenario = spec.fill polling := by
  rw [sound_iff, resolve]
  by_cases blank : isBlankText spec.name
  · simp [blank]
  by_cases zero : spec.hasZeroTiming
  · simp [blank, zero]
  by_cases stray : spec.hasStrayDelay
  · simp [blank, zero, stray]
  have short : checkWaits (spec.waits polling) = .ok () ↔
      ∀ wait ∈ spec.waits polling, wait.2 ≤ longestWait := checkWaits_eq_ok_iff
  rw [← short]
  cases checkWaits (spec.waits polling) with
  | error wait => simp [blank, zero, stray]
  | ok => simp [blank, zero, stray, eq_comm]

theorem resolves_iff : (∃ scenario, spec.resolve polling = .ok scenario) ↔ spec.Sound polling := by
  simp only [resolve_eq_ok_iff, exists_and_left, exists_eq, and_true]

theorem resolve_error (failed : spec.resolve polling = .error fault) :
    ∃ cause, fault = .scenario cause := by
  unfold resolve at failed
  split at failed
  · cases failed
    exact ⟨_, rfl⟩
  split at failed
  · cases failed
    exact ⟨_, rfl⟩
  split at failed
  · cases failed
    exact ⟨_, rfl⟩
  split at failed
  · cases failed
    exact ⟨_, rfl⟩
  · cases failed

theorem resolveEach_of_error {rest : List Spec} (own : spec.resolve polling = .error fault) :
    resolveEach polling (spec :: rest) = .error fault := by
  rw [resolveEach, own]
  rfl

theorem resolveEach_of_ok {rest : List Spec} (own : spec.resolve polling = .ok scenario) :
    resolveEach polling (spec :: rest) = (resolveEach polling rest).map (scenario :: ·) := by
  rw [resolveEach, own]
  cases resolveEach polling rest <;> rfl

theorem resolveEach_eq_ok_iff :
    resolveEach polling specs = .ok scenarios ↔
      List.Forall₂ (fun spec scenario => spec.resolve polling = .ok scenario) specs scenarios := by
  induction specs generalizing scenarios with
  | nil => simp [resolveEach, eq_comm]
  | cons spec rest ih =>
    rw [List.forall₂_cons_left_iff]
    simp only [← ih]
    cases own : spec.resolve polling with
    | error fault => simp [resolveEach_of_error own]
    | ok scenario =>
      rw [resolveEach_of_ok own]
      cases resolveEach polling rest <;> simp [Except.map, eq_comm]

theorem resolveEach_of_first {before after : List Spec} (sound : ∀ other ∈ before, other.Sound polling)
    (failed : spec.resolve polling = .error fault) :
    resolveEach polling (before ++ spec :: after) = .error fault := by
  induction before with
  | nil => exact resolveEach_of_error failed
  | cons first rest ih =>
    obtain ⟨own, others⟩ := List.forall_mem_cons.mp sound
    obtain ⟨scenario, resolved⟩ := resolves_iff.mpr own
    rw [List.cons_append, resolveEach_of_ok resolved, ih others]
    rfl

theorem resolveEach_error (failed : resolveEach polling specs = .error fault) :
    ∃ cause, fault = .scenario cause := by
  induction specs with
  | nil => cases failed
  | cons spec rest ih =>
    cases own : spec.resolve polling with
    | error other =>
      rw [resolveEach_of_error own] at failed
      cases failed
      exact resolve_error own
    | ok scenario =>
      rw [resolveEach_of_ok own] at failed
      cases others : resolveEach polling rest with
      | error other =>
        rw [others] at failed
        cases failed
        exact ih others
      | ok following =>
        rw [others] at failed
        cases failed

theorem resolveAll_of_none (none : select specs only = []) :
    resolveAll specs polling only = .error (.config (.noMatch only (specs.map (·.name)))) := by
  simp [resolveAll, none]

theorem resolveAll_of_some (some : select specs only ≠ []) :
    resolveAll specs polling only = resolveEach polling (select specs only) := by
  simp [resolveAll, some]

theorem resolveAll_eq_config_iff :
    (∃ cause, resolveAll specs polling only = .error (.config cause)) ↔ select specs only = [] := by
  constructor
  · rintro ⟨cause, failed⟩
    by_contra some
    rw [resolveAll_of_some some] at failed
    obtain ⟨_, other⟩ := resolveEach_error failed
    cases other
  · exact fun none => ⟨_, resolveAll_of_none none⟩

theorem resolveAll_eq_ok_iff :
    resolveAll specs polling only = .ok scenarios ↔
      select specs only ≠ [] ∧
        List.Forall₂ (fun spec scenario => spec.resolve polling = .ok scenario) (select specs only)
          scenarios := by
  by_cases none : select specs only = []
  · simp [resolveAll_of_none none, none]
  · rw [resolveAll_of_some none, resolveEach_eq_ok_iff, and_iff_right none]

/-- What a list of names selects among specs, and what that resolves to. -/
structure ResolvesSelection (specs : List Spec) (polling : PollingConfig) (only : List String) :
    Prop where
  selected : select specs only = specs.filter fun spec => Wanted only spec
  resolves_iff : ∀ spec : Spec, (∃ scenario, spec.resolve polling = .ok scenario) ↔ spec.Sound polling
  waits : ∀ (spec : Spec) (scenario : Scenario), spec.resolve polling = .ok scenario →
    scenario.pace.timeout.nanos = (spec.timings polling).timeout ∧
      scenario.pace.interval.nanos = (spec.timings polling).interval ∧
      scenario.delay.nanos = (spec.timings polling).delay ∧
      scenario.buffer.nanos = (spec.timings polling).buffer
  config_iff : (∃ cause, resolveAll specs polling only = .error (.config cause)) ↔
    ∀ spec ∈ specs, ¬ Wanted only spec
  first_error : ∀ before spec after fault, select specs only = before ++ spec :: after →
    (∀ other ∈ before, other.Sound polling) → spec.resolve polling = .error fault →
    resolveAll specs polling only = .error fault
  ok_iff : ∀ scenarios, resolveAll specs polling only = .ok scenarios ↔
    select specs only ≠ [] ∧
      List.Forall₂ (fun spec scenario => spec.resolve polling = .ok scenario) (select specs only)
        scenarios
  /-- It matters which names are on the list, not in which order or how often. -/
  same_names : ∀ others, (∀ name, name ∈ others ↔ name ∈ only) →
    select specs others = select specs only ∧
      ∀ scenarios, resolveAll specs polling others = .ok scenarios ↔
        resolveAll specs polling only = .ok scenarios
  /-- A spec that is not selected might as well be left out, whether it resolves or not. -/
  unselected : ∀ before spec after, specs = before ++ spec :: after → ¬ Wanted only spec →
    select (before ++ after) only = select specs only ∧
      (select specs only ≠ [] →
        resolveAll (before ++ after) polling only = resolveAll specs polling only)

theorem resolves_selection (specs : List Spec) (polling : PollingConfig) (only : List String) :
    ResolvesSelection specs polling only where
  selected := select_eq specs only
  resolves_iff _ := resolves_iff
  waits spec scenario resolved := by
    obtain ⟨_, rfl⟩ := resolve_eq_ok_iff.mp resolved
    exact nanos_timings spec polling
  config_iff := by rw [resolveAll_eq_config_iff, select_eq_nil_iff]
  first_error before spec after fault split sound failed := by
    have some : select specs only ≠ [] := by simp [split]
    rw [resolveAll_of_some some, split, resolveEach_of_first sound failed]
  ok_iff _ := resolveAll_eq_ok_iff
  same_names others same := by
    refine ⟨select_congr same specs, fun scenarios => ?_⟩
    rw [resolveAll_eq_ok_iff, resolveAll_eq_ok_iff, select_congr same specs]
  unselected before spec after split unwanted := by
    have dropped : select (before ++ after) only = select specs only := by
      rw [split, select_drop unwanted]
    refine ⟨dropped, fun some => ?_⟩
    rw [resolveAll_of_some some, resolveAll_of_some (by rwa [dropped]), dropped]

namespace Sample

def alpha : Spec := { name := "alpha", kind := .immediate }

def beta : Spec := { name := "Beta", kind := .broadcast, timeoutSecs := some 3 }

def slow : Spec := { name := "slow", kind := .scheduled, delaySecs := some 86401 }

end Sample

open Sample in
theorem resolves_selection_around_slow :
    resolveAll [alpha, slow, beta] {} ["BETA", "alpha", "beta"] = .ok [alpha.fill {}, beta.fill {}] ∧
      (beta.fill {}).pace.timeout.nanos = 3000000000 ∧
      ∃ fault, slow.resolve {} = .error fault ∧
        resolveAll [alpha, slow, beta] {} [] = .error fault := by
  have named := resolves_selection [alpha, slow, beta] {} ["BETA", "alpha", "beta"]
  have whole := resolves_selection [alpha, slow, beta] {} []
  have first : alpha.resolve {} = .ok (alpha.fill {}) := by rfl
  have last : beta.resolve {} = .ok (beta.fill {}) := by rfl
  have chosen : select [alpha, slow, beta] ["BETA", "alpha", "beta"] = [alpha, beta] := by
    rw [named.selected]
    decide
  have sound : ∀ spec ∈ [alpha], spec.Sound {} := by
    intro spec member
    rw [List.mem_singleton.mp member]
    exact (whole.resolves_iff alpha).mp ⟨_, first⟩
  have resolved := (named.ok_iff [alpha.fill {}, beta.fill {}]).mpr ⟨by simp [chosen], by
    rw [chosen]
    exact .cons first (.cons last .nil)⟩
  exact ⟨resolved, (named.waits beta _ last).1, _, rfl,
    whole.first_error [alpha] slow [beta] _ rfl sound rfl⟩

end Spec

end DeliveryCheck
