import DeliveryCheck.Record.Basic
import DeliveryCheck.Error

namespace DeliveryCheck

inductive Kind where
  | immediate
  | scheduled
  | broadcast
deriving DecidableEq

def Kind.text : Kind → String
  | .immediate => "immediate"
  | .scheduled => "scheduled"
  | .broadcast => "broadcast"

def Kind.ofText? : String → Option Kind
  | "immediate" => some .immediate
  | "scheduled" => some .scheduled
  | "broadcast" => some .broadcast
  | _ => none

structure Pace where
  timeout : Duration
  interval : Duration
deriving DecidableEq

def Pace.budget (pace : Pace) : Duration := pace.timeout + pace.interval

structure Scenario where
  name : String
  kind : Kind
  title : String
  body : String
  category : String
  priority : Option String
  pace : Pace
  /-- From the insertion to the delivery time; unused unless scheduled. -/
  delay : Duration
  /-- From the delivery time to the first poll read; unused unless scheduled. -/
  buffer : Duration
deriving DecidableEq

namespace Scenario

def budget (scenario : Scenario) : Duration :=
  scenario.delay + scenario.buffer + scenario.pace.budget

def wait (scenario : Scenario) : Duration := scenario.delay + scenario.buffer

def fill (scenario : Scenario) (record : Record) : Record :=
  { record with category := scenario.category, priority := scenario.priority }

def record? (scenario : Scenario) (now : Timestamp) : Except Error (Identity → Record) :=
  match scenario.kind with
  | .immediate => .ok fun who => scenario.fill (.immediate who scenario.title scenario.body)
  | .broadcast => .ok fun who => scenario.fill (.broadcast who scenario.title scenario.body)
  | .scheduled =>
    match now.after? scenario.delay with
    | some due => .ok fun who => scenario.fill (.scheduled who scenario.title scenario.body due)
    | none => .error (.scenario (.spec scenario.name (.delayOutOfRange scenario.delay)))

end Scenario

end DeliveryCheck
