import DeliveryCheck.Command.Machine
import DeliveryCheck.Command.Session
import DeliveryCheck.Proofs.Report.Agreement
import DeliveryCheck.Proofs.Run.Order
import DeliveryCheck.Proofs.Run.Story

namespace DeliveryCheck

namespace Run

open Report

/-- The exit status, and what the report says, of a run of `planned` scenarios that handed over some
results. -/
structure VerdictsAgree (report : ReportOptions) (planned : Nat) (verdict : Except Error Unit)
    (results : List ScenarioResult) (status : Nat) (printed : List String) : Prop where
  zero_iff : status = 0 ↔
    verdict = .ok () ∧ results ≠ [] ∧ ∀ result ∈ results, result.outcome = .passed
  one_iff : status = 1 ↔
    verdict = .ok () ∧ (results = [] ∨ ∃ result ∈ results, result.outcome ≠ .passed)
  two_iff : status = 2 ↔ ∃ fault, verdict = .error fault
  document : report.json = true → ∃ line document, printed = [line] ∧
    Json.read? line = some document ∧ Documents (status = 0) results document
  last_line : report.json = false → ∃ earlier line, printed = earlier ++ [line] ∧
    (AnnouncesPass report.colours line ↔ status = 0) ∧
    (status = 0 → line = Style.boldPass.paint report.colours
      ("All " ++ Decimal.natural results.length ++ " scenarios passed")) ∧
    (status = 1 → line = Style.boldFail.paint report.colours
      (Decimal.natural (countFailed results) ++ " of " ++ Decimal.natural results.length ++
        " scenarios failed")) ∧
    (status = 2 → line = Style.boldFail.paint report.colours
      ("Run aborted after " ++ Decimal.natural results.length ++ " of " ++ Decimal.natural planned ++
        " scenarios (" ++ Decimal.natural (countFailed results) ++ " failed)"))

variable (report : ReportOptions) (planned : Nat) (results : List ScenarioResult)

theorem agree_of_ok :
    VerdictsAgree report planned (.ok ()) results (exitStatus results)
      (reportLines report planned results (.ok ())) where
  zero_iff := by simp [exitStatus_eq_zero_iff]
  one_iff := by
    rw [exitStatus_eq_one_iff, ne_eq, exitStatus_eq_zero_iff]
    simp [or_iff_not_imp_left]
  two_iff := by
    rw [exitStatus]
    split <;> simp
  document json := by
    refine ⟨(summary results).text, (summary results).json, ?_, read?_text _, ?_⟩
    · rw [reportLines_json json, closing, if_pos json]
    · have agrees : (exitStatus results = 0) = (isPass results = true) := by
        rw [exitStatus_eq_zero_iff, isPass_iff]
      rw [agrees]
      exact summary_documents results
  last_line console := by
    refine ⟨headerLines report.colours ++ results.map (resultLine report.colours) ++
        [header report.colours rule],
      summaryLine report.colours results, ?_, ?_, fun passed => ?_, fun failed => ?_, fun fatal => ?_⟩
    · simp [reportLines_console console, closing, console]
    · rw [summaryLine_announcesPass_iff, exitStatus_eq_zero_iff, isPass_iff]
    · rw [summaryLine, if_pos (isPass_iff.mpr (exitStatus_eq_zero_iff.mp passed))]
    · rw [exitStatus] at failed
      split at failed
      · cases failed
      next fails => rw [summaryLine, if_neg fails]
    · rw [exitStatus] at fatal
      split at fatal <;> cases fatal

theorem agree_of_error (fault : Error) :
    VerdictsAgree report planned (.error fault) results fatalStatus
      (reportLines report planned results (.error fault)) where
  zero_iff := by simp [fatalStatus]
  one_iff := by simp [fatalStatus]
  two_iff := by simp [fatalStatus]
  document json := by
    refine ⟨(abortedSummary results).text, (abortedSummary results).json,
      reportLines_aborted_json json, read?_text _, ?_⟩
    simpa [fatalStatus] using abortedSummary_documents results
  last_line console := by
    refine ⟨headerLines report.colours ++ results.map (resultLine report.colours) ++
        [header report.colours rule],
      abortedLine report.colours planned results, ?_, ?_, nofun, nofun, fun _ => rfl⟩
    · rw [reportLines_aborted_console console]
      simp
    · simp [abortedLine_not_announcesPass, fatalStatus]

section

variable {σ : Type} {setting : Setting σ} {announce : ScenarioResult → List String}
  {options : RunOptions} {scenarios : List Scenario} {world : World σ}

theorem Orderly.complete_of_ok {concurrent : Bool} {checks : List Checked} {calls : List Event}
    {results : List ScenarioResult}
    (orderly : Orderly setting concurrent scenarios checks calls results (.ok ())) :
    results.map (fun result => (result.name, result.kind)) =
      scenarios.map fun scenario => (scenario.name, scenario.kind) := by
  rcases exists_first_fault orderly.ended with
    succeed | ⟨earlier, failing, others, fault, split, succeed, fails⟩
  · exact (orderly.complete succeed).2.2
  · cases orderly.first_fault earlier failing others fault split succeed fails

theorem complete_of_ok (ended : (all setting announce options scenarios world).1 = .ok ()) :
    ∃ results,
      (all setting announce options scenarios world).2.reported = world.reported ++ results ∧
      results.map (fun result => (result.name, result.kind)) =
        scenarios.map fun scenario => (scenario.name, scenario.kind) := by
  have settles : ¬ IsCutOff setting announce options scenarios world := by
    intro cut
    rw [verdict_of_isCutOff cut] at ended
    cases ended
  have ran := upTo_of_not_isCutOff settles
  rw [ended] at ran
  cases concurrent : options.concurrent with
  | false =>
    rw [concurrent, upTo, if_neg Bool.false_ne_true] at ran
    obtain ⟨checks, calls, results, handed, _, orderly⟩ := inTurn_orderly announce _ ran
    exact ⟨results, handed, orderly.complete_of_ok⟩
  | true =>
    rw [concurrent, upTo, if_pos rfl] at ran
    obtain ⟨checks, calls, results, handed, _, orderly⟩ := atOnce_orderly announce _ ran
    exact ⟨results, handed, orderly.complete_of_ok⟩

end

end Run

open Command in
theorem Command.Session.conclude_fst (environment : Environment)
    (dial : DatabaseConfig → Except Sql.Fault Sql.Database)
    (ended : Except Error (List ScenarioResult)) (machine : Machine) :
    (Session.conclude (Machine.host environment dial) ended machine).1 = Run.status ended := by
  cases ended <;> rfl

namespace Run

namespace Sample

def relapsing : Playback.State :=
  { insertions := []
    scripts :=
      [[{ reply := .ok (some ⟨true, 0, none⟩) }, { reply := .ok (some ⟨true, 0, none⟩) }],
        [{ reply := .ok (some ⟨true, 0, none⟩) }, { reply := .ok (some .pending) }]] }

end Sample

end Run

end DeliveryCheck
