import DeliveryCheck.Poll.Basic
import DeliveryCheck.Report.Result
/-!
Checking one scenario. A record is inserted and polled until it is processed, and one more read has to
confirm that. For a scheduled one the first read comes right after the insertion and must find the
record pending, and the poll starts only after its delay and buffer.
-/

namespace DeliveryCheck.Scenario

variable (scenario : Scenario) (start : Instant)

def mark (phase : Phase) (now : Instant) : Mark := ⟨scenario.name, phase, start.elapsed now⟩

def result (id : Uuid) (outcome : Outcome) (now : Instant) : ScenarioResult :=
  ⟨scenario.name, scenario.kind, id, outcome, start.elapsed now⟩

def resolve (id : Uuid) (outcome : Outcome) (now : Instant) :
    Procedure (Except Error ScenarioResult) :=
  .enter (scenario.mark start .resolved now) (.done (.ok (scenario.result start id outcome now)))

/-- The verdict of the read that follows a satisfied poll. -/
def confirmed : Option Status → Outcome
  | some status => if status.processed then .passed else .failed (.regressed status)
  | none => .passed

def confirm (id : Uuid) : Procedure (Except Error ScenarioResult) :=
  .read id fun now answer =>
    match answer with
    | .error fault => .done (.error fault)
    | .ok status => scenario.resolve start id (confirmed status) now

def settle (id : Uuid) (now : Instant) :
    Except Error PollOutcome → Procedure (Except Error ScenarioResult)
  | .error fault => .done (.error fault)
  | .ok outcome =>
    if outcome.satisfied then scenario.confirm start id
    else
      scenario.resolve start id
        (.failed (.timedOut outcome.last outcome.elapsed outcome.observations)) now

def await (id : Uuid) (now : Instant) : Procedure (Except Error ScenarioResult) :=
  .enter (scenario.mark start .awaiting now)
    (Poll.run Status.processed id scenario.pace now (scenario.settle start id))

def checkEarly (id : Uuid) : Procedure (Except Error ScenarioResult) :=
  .read id fun now answer =>
    match answer with
    | .error fault => .done (.error fault)
    | .ok none => scenario.resolve start id (.failed .notVisible) now
    | .ok (some status) =>
      if status.processed then scenario.resolve start id (.failed (.processedEarly status)) now
      else
        .enter (scenario.mark start .earlyChecked now)
          (.pause scenario.wait fun now => scenario.await start id now)

def follow (id : Uuid) (now : Instant) : Procedure (Except Error ScenarioResult) :=
  .enter (scenario.mark start .injected now)
    (match scenario.kind with
    | .scheduled => scenario.checkEarly start id
    | .immediate | .broadcast => scenario.await start id now)

def check (wall : Timestamp) : Procedure (Except Error ScenarioResult) :=
  match scenario.record? wall with
  | .error fault => .done (.error fault)
  | .ok record =>
    .insert record fun now answer =>
      match answer with
      | .error fault => .done (.error fault)
      | .ok id => scenario.follow start id now

end DeliveryCheck.Scenario
