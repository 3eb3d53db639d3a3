import DeliveryCheck.Scenario.Basic
import DeliveryCheck.Config.Basic
import DeliveryCheck.Text.CharacterRange

namespace DeliveryCheck

structure Spec where
  name : String
  kind : Kind
  title : Option String := none
  body : Option String := none
  category : String := "system"
  priority : Option String := none
  delaySecs : Option UInt64 := none
  bufferSecs : Option UInt64 := none
  timeoutSecs : Option UInt64 := none
  intervalMillis : Option UInt64 := none
deriving DecidableEq

def Kind.defaultTitle : Kind → String
  | .immediate => "E2E Test"
  | .scheduled => "E2E Scheduled"
  | .broadcast => "E2E Broadcast"

def Kind.defaultBody : Kind → String
  | .immediate => "Instant delivery test"
  | .scheduled => "From the future"
  | .broadcast => "Testing global reach"

namespace Spec

def builtin : List Spec :=
  [{ name := "Instant Notification Delivery", kind := .immediate, priority := some "high" },
   { name := "Scheduled Notification", kind := .scheduled },
   { name := "Global Broadcast", kind := .broadcast }]

def isScheduled (spec : Spec) : Bool := spec.kind = .scheduled

def hasZeroTiming (spec : Spec) : Bool :=
  spec.intervalMillis = some 0 || spec.timeoutSecs = some 0

def hasStrayDelay (spec : Spec) : Bool :=
  !spec.isScheduled && (spec.delaySecs.isSome || spec.bufferSecs.isSome)

def timeout (spec : Spec) (polling : PollingConfig) : Duration :=
  .ofSeconds (spec.timeoutSecs.getD
    (if spec.isScheduled then polling.scheduledTimeoutSecs else polling.timeoutSecs))

def interval (spec : Spec) (polling : PollingConfig) : Duration :=
  .ofMillis (spec.intervalMillis.getD polling.intervalMillis)

def delay (spec : Spec) (polling : PollingConfig) : Duration :=
  if spec.isScheduled then .ofSeconds (spec.delaySecs.getD polling.scheduledDelaySecs) else .zero

def buffer (spec : Spec) (polling : PollingConfig) : Duration :=
  if spec.isScheduled then .ofSeconds (spec.bufferSecs.getD polling.scheduledBufferSecs) else .zero

def waits (spec : Spec) (polling : PollingConfig) : List (String × Duration) :=
  [("timeout_secs", spec.timeout polling),
   ("interval_ms", spec.interval polling),
   ("delay_secs", spec.delay polling),
   ("buffer_secs", spec.buffer polling)]

def fill (spec : Spec) (polling : PollingConfig) : Scenario where
  name := spec.name
  kind := spec.kind
  title := spec.title.getD spec.kind.defaultTitle
  body := spec.body.getD spec.kind.defaultBody
  category := spec.category
  priority := spec.priority
  pace := ⟨spec.timeout polling, spec.interval polling⟩
  delay := spec.delay polling
  buffer := spec.buffer polling

def resolve (spec : Spec) (polling : PollingConfig) : Except Error Scenario :=
  let refuse (fault : SpecFault) : Except Error Scenario :=
    .error (.scenario (.spec spec.name fault))
  if isBlankText spec.name then .error (.scenario .blankName)
  else if spec.hasZeroTiming then refuse .zeroTiming
  else if spec.hasStrayDelay then refuse .delayNotScheduled
  else match checkWaits (spec.waits polling) with
    | .error wait => refuse (.longWait wait)
    | .ok () => .ok (spec.fill polling)

def sameName (a b : String) : Bool := a.toList.map Char.toLower = b.toList.map Char.toLower

/-- Whether a list of wanted names asks for a spec; the empty list asks for all. -/
def isWanted (only : List String) (spec : Spec) : Bool :=
  only.isEmpty || only.any (sameName · spec.name)

def select (specs : List Spec) (only : List String) : List Spec := specs.filter (isWanted only)

def resolveEach (polling : PollingConfig) : List Spec → Except Error (List Scenario)
  | [] => .ok []
  | spec :: rest => do
    let scenario ← spec.resolve polling
    return scenario :: (← resolveEach polling rest)

def resolveAll (specs : List Spec) (polling : PollingConfig) (only : List String) :
    Except Error (List Scenario) :=
  let selected := select specs only
  if selected.isEmpty then .error (.config (.noMatch only (specs.map (·.name))))
  else resolveEach polling selected

end Spec

end DeliveryCheck
