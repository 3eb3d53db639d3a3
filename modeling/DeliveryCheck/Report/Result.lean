import DeliveryCheck.Scenario.Basic
import DeliveryCheck.Record.Basic

namespace DeliveryCheck

inductive Failure where
  /-- The record was processed when it had to be pending. -/
  | processedEarly (status : Status)
  /-- The record could not be read right after its insertion. -/
  | notVisible
  /-- The record was not seen processed while the poll went on. -/
  | timedOut (last : Option Status) (waited : Duration) (observations : Nat)
  /-- The confirming read saw the record pending again. -/
  | regressed (status : Status)
deriving DecidableEq

namespace Failure

def diagnostic : Failure → String
  | .processedEarly status => "processed too early (" ++ status.text ++ ")"
  | .notVisible => "record not visible immediately after insert"
  | .timedOut none waited observations =>
    "timed out after " ++ waited.tenthsText ++ "s: record never observed (" ++
      Decimal.natural observations ++ " reads)"
  | .timedOut (some status) waited observations =>
    "timed out after " ++ waited.tenthsText ++ "s: never processed (" ++
      Decimal.natural observations ++ " reads, last: " ++ status.text ++ ")"
  | .regressed status => "processed state reverted (" ++ status.text ++ ")"

end Failure

inductive Outcome where
  | passed
  | failed (failure : Failure)
deriving DecidableEq

namespace Outcome

def isPassed : Outcome → Bool
  | .passed => true
  | .failed _ => false

def diagnostic? : Outcome → Option String
  | .passed => none
  | .failed failure => some failure.diagnostic

end Outcome

structure ScenarioResult where
  name : String
  kind : Kind
  id : Uuid
  outcome : Outcome
  elapsed : Duration
deriving DecidableEq

end DeliveryCheck
