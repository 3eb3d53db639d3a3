import DeliveryCheck.Report.Result
import DeliveryCheck.Text.Colour

namespace DeliveryCheck.Report

variable (colours : Bool)

def header (text : String) : String := Style.header.paint colours text

def fatalLine (fault : Error) : String := Style.fail.paint colours ("Error: " ++ fault.message)

def subject (result : ScenarioResult) : String :=
  result.name ++ " [" ++ result.kind.text ++ "] " ++
    Style.dimmed.paint colours (result.elapsed.tenthsText ++ "s")

def resultLine (result : ScenarioResult) : String :=
  match result.outcome.diagnostic? with
  | none => "  " ++ Style.pass.paint colours "✓" ++ " " ++ subject colours result
  | some reason =>
    "  " ++ Style.fail.paint colours "✗" ++ " " ++ subject colours result ++ ": " ++
      Style.fail.paint colours reason ++ " (" ++ result.id.text ++ ")"

def rule : String := String.ofList (List.replicate 60 '═')

def headerLines : List String :=
  [header colours rule, header colours "  NOTIFICATIONS SERVICE - END-TO-END TEST SUITE",
   header colours rule]

end DeliveryCheck.Report
