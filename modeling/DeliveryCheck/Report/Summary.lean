import DeliveryCheck.Report.Line
import DeliveryCheck.Text.Json

namespace DeliveryCheck.Report

def countFailed (results : List ScenarioResult) : Nat :=
  results.countP fun result => !result.outcome.isPassed

def isPass (results : List ScenarioResult) : Bool := !results.isEmpty && countFailed results = 0

def fatalStatus : Nat := 2

def exitStatus (results : List ScenarioResult) : Nat := if isPass results then 0 else 1

structure SummaryEntry where
  name : String
  kind : Kind
  id : Uuid
  passed : Bool
  diagnostic : Option String
  elapsedMillis : Nat
deriving DecidableEq

structure Summary where
  passed : Bool
  total : Nat
  failed : Nat
  entries : List SummaryEntry
deriving DecidableEq

def entry (result : ScenarioResult) : SummaryEntry where
  name := result.name
  kind := result.kind
  id := result.id
  passed := result.outcome.isPassed
  diagnostic := result.outcome.diagnostic?
  elapsedMillis := result.elapsed.millis

def summary (results : List ScenarioResult) : Summary where
  passed := isPass results
  total := results.length
  failed := countFailed results
  entries := results.map entry

def abortedSummary (results : List ScenarioResult) : Summary :=
  { summary results with passed := false }

namespace SummaryEntry

def json (entry : SummaryEntry) : Json :=
  let diagnostic := entry.diagnostic.toList.map fun reason => ("diagnostic", Json.string reason)
  .object ([("name", .string entry.name), ("kind", .string entry.kind.text),
    ("notification_id", .string entry.id.text), ("passed", .bool entry.passed)] ++ diagnostic ++
    [("elapsed_ms", .number entry.elapsedMillis)])

end SummaryEntry

namespace Summary

def json (summary : Summary) : Json :=
  .object [("passed", .bool summary.passed), ("total", .number summary.total),
    ("failed", .number summary.failed), ("scenarios", .array (summary.entries.map (·.json)))]

def text (summary : Summary) : String := summary.json.pretty

end Summary

variable (colours : Bool)

def summaryLine (results : List ScenarioResult) : String :=
  if isPass results then
    Style.boldPass.paint colours
      ("All " ++ Decimal.natural results.length ++ " scenarios passed")
  else
    Style.boldFail.paint colours
      (Decimal.natural (countFailed results) ++ " of " ++ Decimal.natural results.length ++
        " scenarios failed")

def abortedLine (planned : Nat) (results : List ScenarioResult) : String :=
  Style.boldFail.paint colours
    ("Run aborted after " ++ Decimal.natural results.length ++ " of " ++ Decimal.natural planned ++
      " scenarios (" ++ Decimal.natural (countFailed results) ++ " failed)")

end DeliveryCheck.Report
