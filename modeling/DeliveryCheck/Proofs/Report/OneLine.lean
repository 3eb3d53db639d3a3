import DeliveryCheck.Proofs.Report.Diagnostic
import DeliveryCheck.Proofs.Text.Lines
import DeliveryCheck.Report.Summary

namespace DeliveryCheck

namespace OneLine

@[simp] theorem kind (kind : Kind) : OneLine kind.text := by cases kind <;> decide

@[simp] theorem tenths (length : Duration) : OneLine length.tenthsText :=
  of_kind (fun _ => Duration.isTenthsChar_of_mem) (by decide)

@[simp] theorem status (status : Status) : OneLine status.text := by
  have flag : OneLine (Status.boolText status.processed) := by
    cases status.processed <;> decide
  have reason : OneLine (Status.lastErrorText status.lastError) := by
    cases status.lastError with
    | none => decide
    | some reason =>
      rw [Status.lastErrorText_some, oneLine_append]
      exact ⟨by decide, quoted reason⟩
  rw [Status.text_eq]
  simp only [oneLine_append, flag, integer, reason, and_true, true_and]
  decide

theorem sightings (observations : Nat) (last : Option Status) :
    OneLine (Failure.sightings observations last) := by
  cases last with
  | none =>
    rw [Failure.sightings_none]
    simp only [oneLine_append, natural, true_and]
    decide
  | some seen =>
    rw [Failure.sightings_some]
    simp only [oneLine_append, natural, status, true_and]
    decide

theorem diagnostic (failure : Failure) : OneLine failure.diagnostic := by
  cases failure with
  | processedEarly seen =>
    rw [Failure.diagnostic_processedEarly]
    simp only [oneLine_append, status, and_true]
    decide
  | notVisible => decide
  | timedOut last waited observations =>
    rw [Failure.diagnostic_timedOut]
    simp only [oneLine_append, tenths, sightings, and_true, true_and]
    decide
  | regressed seen =>
    rw [Failure.diagnostic_regressed]
    simp only [oneLine_append, status, and_true]
    decide

end OneLine

namespace Report

variable (colours : Bool)

theorem subject_split (result : ScenarioResult) :
    ∃ rest, OneLine rest ∧ subject colours result = result.name ++ rest := by
  have length : OneLine (Style.dimmed.paint colours (result.elapsed.tenthsText ++ "s")) :=
    .paint (by decide) (oneLine_append.mpr ⟨.tenths _, by decide⟩) colours
  refine ⟨" [" ++ (result.kind.text ++ ("] " ++
    Style.dimmed.paint colours (result.elapsed.tenthsText ++ "s"))), ?_, ?_⟩
  · simp only [oneLine_append, OneLine.kind, length, true_and, and_true]
    decide
  · simp only [subject, String.append_assoc]

theorem resultLine_split (result : ScenarioResult) :
    ∃ lead rest, OneLine lead ∧ OneLine rest ∧
      resultLine colours result = lead ++ (result.name ++ rest) := by
  obtain ⟨behind, short, subject⟩ := subject_split colours result
  rw [resultLine, subject]
  cases result.outcome with
  | passed =>
    have mark : OneLine (Style.pass.paint colours "✓") := .paint (by decide) (by decide) colours
    refine ⟨"  " ++ (Style.pass.paint colours "✓" ++ " "), behind, ?_, short, ?_⟩
    · simp only [oneLine_append, mark, true_and]
      decide
    · simp only [Outcome.diagnostic?, String.append_assoc]
  | failed failure =>
    have mark : OneLine (Style.fail.paint colours "✗") := .paint (by decide) (by decide) colours
    have reason : OneLine (Style.fail.paint colours failure.diagnostic) :=
      .paint (by decide) (.diagnostic failure) colours
    refine ⟨"  " ++ (Style.fail.paint colours "✗" ++ " "), behind ++ (": " ++
      (Style.fail.paint colours failure.diagnostic ++ (" (" ++ (result.id.text ++ ")")))), ?_, ?_, ?_⟩
    · simp only [oneLine_append, mark, true_and]
      decide
    · simp only [oneLine_append, short, reason, OneLine.uuid, true_and]
      decide
    · simp only [Outcome.diagnostic?, String.append_assoc]

theorem feeds_resultLine (result : ScenarioResult) :
    feeds (resultLine colours result) = feeds result.name := by
  obtain ⟨lead, rest, first, last, split⟩ := resultLine_split colours result
  rw [split, feeds_append, feeds_append, feeds_eq_zero_iff.mpr first, feeds_eq_zero_iff.mpr last,
    Nat.zero_add, Nat.add_zero]

theorem oneLine_resultLine_iff {result : ScenarioResult} :
    OneLine (resultLine colours result) ↔ OneLine result.name := by
  rw [← feeds_eq_zero_iff, feeds_resultLine, feeds_eq_zero_iff]

theorem oneLine_header {text : String} (own : OneLine text) : OneLine (header colours text) :=
  .paint (by decide) own colours

theorem oneLine_rule : OneLine rule := by
  have letters : rule.toList = List.replicate 60 '═' := String.toList_ofList
  intro feed
  rw [letters] at feed
  exact absurd (List.eq_of_mem_replicate feed) (by decide)

theorem oneLine_of_mem_headerLines {line : String} (member : line ∈ headerLines colours) :
    OneLine line := by
  simp only [headerLines, List.mem_cons, List.not_mem_nil, or_false] at member
  rcases member with rfl | rfl | rfl
  · exact oneLine_header colours oneLine_rule
  · exact oneLine_header colours (by decide)
  · exact oneLine_header colours oneLine_rule

theorem oneLine_summaryLine (results : List ScenarioResult) : OneLine (summaryLine colours results) := by
  rw [summaryLine]
  by_cases passes : isPass results
  · rw [if_pos passes]
    refine .paint (by decide) ?_ colours
    simp only [oneLine_append, OneLine.natural, and_true]
    decide
  · rw [if_neg passes]
    refine .paint (by decide) ?_ colours
    simp only [oneLine_append, OneLine.natural]
    decide

theorem oneLine_abortedLine (planned : Nat) (results : List ScenarioResult) :
    OneLine (abortedLine colours planned results) := by
  rw [abortedLine]
  refine .paint (by decide) ?_ colours
  simp only [oneLine_append, OneLine.natural, and_true]
  decide

end Report

end DeliveryCheck
