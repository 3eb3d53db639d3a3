import DeliveryCheck.Run.All
import DeliveryCheck.Report.Summary
/-!
A whole run with its report: the console lines or the JSON summary. The store is closed once, after
the last call of the run and before the summary, however the run ended.
-/

namespace DeliveryCheck

structure ReportOptions where
  json : Bool := false
  colours : Bool := false
deriving DecidableEq

namespace Run

def announcement (report : ReportOptions) (result : ScenarioResult) : List String :=
  if report.json then [] else [Report.resultLine report.colours result]

def opening (report : ReportOptions) : List String :=
  if report.json then [] else Report.headerLines report.colours

def closing (report : ReportOptions) (planned : Nat) (results : List ScenarioResult) :
    Except Error Unit → List String
  | .ok () =>
    if report.json then [(Report.summary results).text]
    else [Report.header report.colours Report.rule, Report.summaryLine report.colours results]
  | .error _ =>
    if report.json then [(Report.abortedSummary results).text]
    else
      [Report.header report.colours Report.rule,
       Report.abortedLine report.colours planned results]

end Run

namespace World

variable {σ : Type} (world : World σ)

def close (store : Store σ) : World σ :=
  (world.withState (store.close world.state)).note (.closed world.now)

end World

namespace Run

variable {σ : Type} (setting : Setting σ)

/-- Runs the scenarios, closes the store and ends the report; what was handed over is in the history. -/
def execute (options : RunOptions) (report : ReportOptions) (scenarios : List Scenario)
    (world : World σ) : Except Error (List ScenarioResult) × World σ :=
  let opened := world.print (opening report)
  let (ended, ran) := all setting (announcement report) options scenarios opened
  let results := ran.reported
  let finished := (ran.close setting.store).print (closing report scenarios.length results ended)
  (ended.map fun _ => results, finished)

def status : Except Error (List ScenarioResult) → Nat
  | .ok results => Report.exitStatus results
  | .error _ => Report.fatalStatus

end Run

end DeliveryCheck
