import DeliveryCheck.Proofs.Report.OneLine
import DeliveryCheck.Proofs.Run.Story
import DeliveryCheck.Proofs.Run.Timeout
import DeliveryCheck.Proofs.Scenario.Selection

namespace DeliveryCheck

theorem Spec.resolveAll_names {specs : List Spec} {polling : PollingConfig} {only : List String}
    {scenarios : List Scenario} (resolved : resolveAll specs polling only = .ok scenarios) :
    scenarios.map (fun scenario => (scenario.name, scenario.kind)) =
      (select specs only).map fun spec => (spec.name, spec.kind) := by
  obtain ⟨_, each⟩ := resolveAll_eq_ok_iff.mp resolved
  clear resolved
  generalize select specs only = selected at each ⊢
  induction each with
  | nil => rfl
  | cons own _ ih =>
    obtain ⟨_, rfl⟩ := resolve_eq_ok_iff.mp own
    rw [List.map_cons, List.map_cons, ih]
    rfl

namespace Run

open Report

variable {σ : Type}

theorem all_names (setting : Setting σ) (announce : ScenarioResult → List String)
    (options : RunOptions) (scenarios : List Scenario) (world : World σ) :
    ∃ results, (all setting announce options scenarios world).2.reported = world.reported ++ results ∧
      (results.map fun result => (result.name, result.kind)).Sublist
        (scenarios.map fun scenario => (scenario.name, scenario.kind)) := by
  rw [world_all]
  generalize some (options.deadline scenarios world.now) = limit
  cases options.concurrent with
  | false =>
    obtain ⟨_, results, _, reported, keeps⟩ :=
      inTurn_keepsResolved setting announce limit scenarios world
    rw [upTo, if_neg Bool.false_ne_true]
    exact ⟨results, reported, keeps.ordered⟩
  | true =>
    have quiet := Task.reported_together setting limit
      (scenarios.map fun scenario => Task.ready world.now (begin setting world scenario)) world
    rw [upTo, if_pos rfl, atOnce]
    split
    next after stopped =>
      rw [stopped] at quiet
      exact ⟨[], quiet.trans (List.append_nil _).symm, List.nil_sublist _⟩
    next ends after finished =>
      rw [finished] at quiet
      obtain ⟨_, _, keeps⟩ := together_keepsResolved announce limit scenarios world finished
      refine ⟨ends.filterMap Except.toOption, ?_, keeps.ordered⟩
      rw [reported_handOver, quiet]

theorem oneLine_of_mem_closing {colours : Bool} {planned : Nat} {results : List ScenarioResult}
    {verdict : Except Error Unit} {line : String}
    (member : line ∈ closing ⟨false, colours⟩ planned results verdict) : OneLine line := by
  cases verdict with
  | ok =>
    simp only [closing, if_neg Bool.false_ne_true, List.mem_cons, List.not_mem_nil, or_false] at member
    rcases member with rfl | rfl
    · exact oneLine_header colours oneLine_rule
    · exact oneLine_summaryLine colours results
  | error =>
    simp only [closing, if_neg Bool.false_ne_true, List.mem_cons, List.not_mem_nil, or_false] at member
    rcases member with rfl | rfl
    · exact oneLine_header colours oneLine_rule
    · exact oneLine_abortedLine colours planned results

/-- What is printed on the console for the results of a run, and what is seen of it. -/
structure SeenInLines (colours : Bool) (planned : Nat) (verdict : Except Error Unit)
    (results : List ScenarioResult) (printed : List String) : Prop where
  printed_eq : printed = headerLines colours ++ results.map (resultLine colours) ++
    closing ⟨false, colours⟩ planned results verdict
  length_eq : (seenLines (typed printed)).length =
    printed.length + (results.map fun result => feeds result.name).sum
  seen_iff : seenLines (typed printed) = printed.map String.toList ↔
    ∀ result ∈ results, OneLine result.name

theorem reportLines_seenInLines (colours : Bool) (planned : Nat) (results : List ScenarioResult)
    (verdict : Except Error Unit) :
    SeenInLines colours planned verdict results
      (reportLines ⟨false, colours⟩ planned results verdict) := by
  have lines : reportLines ⟨false, colours⟩ planned results verdict = headerLines colours ++
      results.map (resultLine colours) ++ closing ⟨false, colours⟩ planned results verdict :=
    reportLines_console rfl
  rw [lines]
  refine ⟨rfl, ?_, ?_⟩
  · have first : ((headerLines colours).map feeds).sum = 0 :=
      sum_feeds_eq_zero_iff.mpr fun _ => oneLine_of_mem_headerLines colours
    have last : ((closing ⟨false, colours⟩ planned results verdict).map feeds).sum = 0 :=
      sum_feeds_eq_zero_iff.mpr fun _ => oneLine_of_mem_closing
    have each : feeds ∘ resultLine colours = fun result => feeds result.name := by
      funext result
      exact feeds_resultLine colours result
    rw [length_seenLines_typed, List.map_append, List.map_append, List.sum_append, List.sum_append,
      first, last, List.map_map, each, Nat.zero_add, Nat.add_zero]
  · rw [seenLines_typed_iff]
    constructor
    · intro short result member
      exact (oneLine_resultLine_iff colours).mp (short _ (by simp [List.mem_map_of_mem member]))
    · intro short line member
      simp only [List.mem_append] at member
      rcases member with (first | shown) | last
      · exact oneLine_of_mem_headerLines colours first
      · obtain ⟨result, handed, rfl⟩ := List.mem_map.mp shown
        exact (oneLine_resultLine_iff colours).mpr (short result handed)
      · exact oneLine_of_mem_closing last

/-- The console shows one line for each result of the scenarios that specs resolve to, with as many lines
more as there are line feeds in their names. Nothing that a worker writes adds a line. -/
theorem console_seen_in_lines {specs : List Spec} {polling : PollingConfig} {only : List String}
    {scenarios : List Scenario} (resolved : Spec.resolveAll specs polling only = .ok scenarios)
    (setting : Setting σ) (options : RunOptions) (colours : Bool) (now : Instant) (state : σ)
    (issued : Nat) :
    let ran := ranWithin setting options ⟨false, colours⟩ scenarios now state issued
    let done := execute setting options ⟨false, colours⟩ scenarios ⟨now, state, issued, []⟩
    (done.2.reported.map fun result => (result.name, result.kind)).Sublist
        ((Spec.select specs only).map fun spec => (spec.name, spec.kind)) ∧
      (∀ result, feeds (resultLine colours result) = feeds result.name) ∧
      SeenInLines colours scenarios.length ran.1 done.2.reported done.2.printed := by
  intro ran done
  obtain ⟨story, results, told, _, whole, _, history⟩ :=
    execute_story setting options ⟨false, colours⟩ scenarios now state issued
  obtain ⟨handed, printed⟩ := told.of_reported history
  obtain ⟨others, reported, named⟩ := all_names setting (announcement ⟨false, colours⟩) options
    scenarios ((⟨now, state, issued, []⟩ : World σ).print (opening ⟨false, colours⟩))
  rw [World.reported_print] at reported
  have same : results = others := whole.symm.trans reported
  rw [handed, printed]
  refine ⟨?_, feeds_resultLine colours, reportLines_seenInLines colours scenarios.length results ran.1⟩
  rw [same, ← Spec.resolveAll_names resolved]
  exact named

namespace Sample

def ran (spec : Spec) (seen : List Status) : World Playback.State :=
  (execute setting {} {} [spec.fill {}]
    ⟨0, { insertions := [], scripts := [seen.map fun status => { reply := .ok (some status) }] }, 0, []⟩).2

def processed : Status := ⟨true, 0, none⟩

/-- The worker's error text goes on with what looks like the line of another result. -/
def forging : Status := ⟨false, 1, some "down\n  ✓ real [immediate] 0.0s"⟩

def relapse : Spec := { name := "relapse", kind := .immediate }

def forger : Spec := { name := "ghost [immediate] 0.0s\n  ✓ real", kind := .immediate }

end Sample

open Sample in
theorem console_seen_in_lines_relapse :
    Spec.resolveAll [relapse] {} [] = .ok [relapse.fill {}] ∧
      (ran relapse [processed, forging]).reported.map
        (fun result => (result.name, result.outcome)) = [("relapse", .failed (.regressed forging))] ∧
      seenLines (typed (ran relapse [processed, forging]).printed) =
        (ran relapse [processed, forging]).printed.map String.toList := by
  have resolved : Spec.resolveAll [relapse] {} [] = .ok [relapse.fill {}] := by rfl
  have results : (ran relapse [processed, forging]).reported.map
      (fun result => (result.name, result.outcome)) = [("relapse", .failed (.regressed forging))] := by
    decide +kernel
  obtain ⟨_, _, seen⟩ := console_seen_in_lines resolved setting {} false 0
    { insertions := [], scripts := [[processed, forging].map fun status =>
        { reply := .ok (some status) }] } 0
  refine ⟨resolved, results, seen.seen_iff.mpr fun result member => ?_⟩
  have own : (result.name, result.outcome) ∈ [("relapse", .failed (.regressed forging))] :=
    results ▸ List.mem_map_of_mem member
  rw [(Prod.mk.inj (List.mem_singleton.mp own)).1]
  decide

open Sample in
theorem forged_result_line :
    Spec.resolveAll [forger] {} [] = .ok [forger.fill {}] ∧
      ((ran forger [processed]).reported.map fun result =>
        (result.outcome, decide (OneLine (resultLine false result)))) = [(.passed, false)] ∧
      (seenLines (typed (ran forger [processed]).printed)).map String.ofList =
        headerLines false ++ ["  ✓ ghost [immediate] 0.0s", "  ✓ real [immediate] 0.0s", rule,
          "All 1 scenarios passed"] :=
  ⟨by rfl, by decide +kernel, by decide +kernel⟩

end Run

end DeliveryCheck
