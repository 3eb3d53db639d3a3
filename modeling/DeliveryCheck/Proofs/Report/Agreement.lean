import Mathlib
import DeliveryCheck.Proofs.Text.Json
import DeliveryCheck.Report.Summary

namespace DeliveryCheck

namespace Json

def member? (name : String) : Json → Option Json
  | .object members => members.lookup name
  | .bool _ | .number _ | .string _ | .array _ => none

/-- The names of the members of an object. -/
def names : Json → List String
  | .object members => members.map Prod.fst
  | .bool _ | .number _ | .string _ | .array _ => []

def isFailedEntry (entry : Json) : Bool :=
  match entry.member? "passed" with
  | some (.bool passed) => !passed
  | _ => false

end Json

namespace Report

variable {results : List ScenarioResult}

theorem isPassed_iff {outcome : Outcome} : outcome.isPassed ↔ outcome = .passed := by
  cases outcome <;> simp [Outcome.isPassed]

theorem countFailed_eq_zero_iff :
    countFailed results = 0 ↔ ∀ result ∈ results, result.outcome = .passed := by
  simp [countFailed, List.countP_eq_zero, isPassed_iff]

theorem isPass_iff :
    isPass results ↔ results ≠ [] ∧ ∀ result ∈ results, result.outcome = .passed := by
  simp [isPass, countFailed_eq_zero_iff]

theorem exitStatus_eq_zero_iff :
    exitStatus results = 0 ↔ results ≠ [] ∧ ∀ result ∈ results, result.outcome = .passed := by
  rw [← isPass_iff, exitStatus]
  split <;> simp_all

theorem exitStatus_eq_one_iff : exitStatus results = 1 ↔ exitStatus results ≠ 0 := by
  rw [exitStatus]
  split <;> simp

def AnnouncesPass (colours : Bool) (line : String) : Prop :=
  ∃ count, line =
    Style.boldPass.paint colours ("All " ++ Decimal.natural count ++ " scenarios passed")

/-- In colours a failing line opens with other codes, and without them with another character. -/
theorem not_announcesPass_of_head {colours : Bool} {text : String}
    (head : text.toList.head? ≠ some 'A') :
    ¬ AnnouncesPass colours (Style.boldFail.paint colours text) := by
  intro ⟨count, same⟩
  cases colours with
  | false =>
    simp only [Style.paint, Bool.false_eq_true, if_false] at same
    rw [same] at head
    simp at head
  | true =>
    simp only [Style.paint, if_true] at same
    have letters := congrArg String.toList same
    simp [Style.opening, Style.boldFail, Style.boldPass] at letters

theorem head?_natural_append (count : Nat) (rest : String) :
    (Decimal.natural count ++ rest).toList.head? ≠ some 'A' := by
  have filled := Decimal.digits_ne_nil count
  have numeric := fun c => Decimal.isDigit_of_mem_digits (n := count) (c := c)
  rw [Decimal.natural, String.toList_append, String.toList_ofList]
  cases digits : Decimal.digits count with
  | nil => exact absurd digits filled
  | cons first others =>
    intro same
    have letter : first = 'A' := by simpa using same
    have digit := numeric first (by simp [digits])
    rw [letter] at digit
    exact absurd digit (by decide)

theorem summaryLine_announcesPass_iff (colours : Bool) (results : List ScenarioResult) :
    AnnouncesPass colours (summaryLine colours results) ↔ isPass results := by
  rw [summaryLine]
  split
  next passes => exact ⟨fun _ => passes, fun _ => ⟨results.length, rfl⟩⟩
  next fails =>
    refine ⟨fun announced => absurd announced (not_announcesPass_of_head ?_),
      fun passes => absurd passes fails⟩
    rw [String.append_assoc, String.append_assoc]
    exact head?_natural_append _ _

theorem abortedLine_not_announcesPass (colours : Bool) (planned : Nat)
    (results : List ScenarioResult) :
    ¬ AnnouncesPass colours (abortedLine colours planned results) := by
  refine not_announcesPass_of_head ?_
  simp

/-- How an entry of a summary shows a result. Exactly the ones that failed have a diagnostic. -/
structure Shows (result : ScenarioResult) (entry : Json) : Prop where
  distinct : entry.names.Nodup
  name : entry.member? "name" = some (.string result.name)
  kind : entry.member? "kind" = some (.string result.kind.text)
  id : entry.member? "notification_id" = some (.string result.id.text)
  elapsed : entry.member? "elapsed_ms" = some (.number result.elapsed.millis)
  passed : entry.member? "passed" = some (.bool (decide (result.outcome = .passed)))
  diagnostic : ∀ failure, result.outcome = .failed failure →
    entry.member? "diagnostic" = some (.string failure.diagnostic)
  undiagnosed : result.outcome = .passed → entry.member? "diagnostic" = none

theorem entry_shows (result : ScenarioResult) : Shows result (entry result).json := by
  obtain ⟨name, kind, id, outcome, elapsed⟩ := result
  cases outcome with
  | passed =>
    constructor
    case diagnostic => nofun
    all_goals simp [entry, SummaryEntry.json, Json.names, Json.member?, Outcome.diagnostic?,
      Outcome.isPassed, List.lookup]
  | failed failure =>
    constructor
    case undiagnosed => nofun
    all_goals simp [entry, SummaryEntry.json, Json.names, Json.member?, Outcome.diagnostic?,
      Outcome.isPassed, List.lookup]

theorem Shows.isFailedEntry_iff {result : ScenarioResult} {entry : Json} (shows : Shows result entry) :
    entry.isFailedEntry = !result.outcome.isPassed := by
  rw [Json.isFailedEntry, shows.passed]
  cases result.outcome <;> rfl

/-- How a document reports some results: its verdict, its counts, and an entry for each in their
order. -/
structure Documents (passes : Prop) (results : List ScenarioResult) (document : Json) : Prop where
  distinct : document.names.Nodup
  passed : ∃ verdict, document.member? "passed" = some (.bool verdict) ∧ (verdict ↔ passes)
  total : document.member? "total" = some (.number results.length)
  failed : document.member? "failed" = some (.number (countFailed results))
  entries : ∃ entries, document.member? "scenarios" = some (.array entries) ∧
    List.Forall₂ Shows results entries ∧ entries.countP Json.isFailedEntry = countFailed results

theorem entries_show (results : List ScenarioResult) :
    List.Forall₂ Shows results ((results.map entry).map SummaryEntry.json) ∧
      ((results.map entry).map SummaryEntry.json).countP Json.isFailedEntry =
        countFailed results := by
  induction results with
  | nil => exact ⟨.nil, rfl⟩
  | cons result rest ih =>
    obtain ⟨others, counted⟩ := ih
    refine ⟨.cons (entry_shows result) others, ?_⟩
    simp only [List.map_cons, List.countP_cons, counted, (entry_shows result).isFailedEntry_iff,
      countFailed]

theorem json_documents {summary : Summary} {passes : Prop} (verdict : summary.passed ↔ passes)
    (total : summary.total = results.length) (failed : summary.failed = countFailed results)
    (entries : summary.entries = results.map entry) : Documents passes results summary.json where
  distinct := by simp [Summary.json, Json.names]
  passed := ⟨summary.passed, rfl, verdict⟩
  total := by simp [Summary.json, Json.member?, List.lookup, total]
  failed := by simp [Summary.json, Json.member?, List.lookup, failed]
  entries := by
    refine ⟨(results.map entry).map SummaryEntry.json, ?_, entries_show results⟩
    simp [Summary.json, Json.member?, List.lookup, entries]

theorem nestsWithin_entry (depth : Nat) (entry : SummaryEntry) :
    Json.NestsWithin (depth + 1) entry.json := by
  obtain ⟨name, kind, id, passed, diagnostic, elapsed⟩ := entry
  cases diagnostic <;> simp [SummaryEntry.json, Json.NestsWithin]

theorem nestsWithin_json (depth : Nat) (summary : Summary) :
    Json.NestsWithin (depth + 3) summary.json := by
  simp [Summary.json, Json.NestsWithin, nestsWithin_entry]

theorem read?_text (summary : Summary) : Json.read? summary.text = some summary.json :=
  Json.read?_pretty (nestsWithin_json 125 summary)

theorem summary_documents (results : List ScenarioResult) :
    Documents (isPass results) results (summary results).json := json_documents Iff.rfl rfl rfl rfl

theorem abortedSummary_documents (results : List ScenarioResult) :
    Documents False results (abortedSummary results).json :=
  json_documents (by simp [abortedSummary]) rfl rfl rfl

end Report

end DeliveryCheck
