import DeliveryCheck.Procedure.Basic
import DeliveryCheck.Scenario.Basic
/-!
Polling one record: read it until a read satisfies the goal or the deadline has come. The rest between
two reads is cut short so that the last read falls on the deadline, and a record that is not visible
yet only fails to satisfy the goal.
-/

namespace DeliveryCheck

structure Poll where
  started : Instant
  deadline : Instant
  interval : Duration
  last : Option Status
  observations : Nat
deriving DecidableEq

structure PollOutcome where
  satisfied : Bool
  last : Option Status
  observations : Nat
  elapsed : Duration
deriving DecidableEq

def PollOutcome.neverObserved (outcome : PollOutcome) : Bool := outcome.last.isNone

namespace Poll

/-- The most reads that a poll can count, 32 bits of them. -/
def mostReads : Nat := UInt32.size - 1

def uncountable : Error := .internal "read counter overflow"

inductive Step where
  | over (outcome : PollOutcome)
  | rest (length : Duration) (poll : Poll)

/-- A poll that starts now, unless its deadline cannot be written. -/
def start (pace : Pace) (now : Instant) : Except Error Poll :=
  match now.after? pace.timeout with
  | some deadline => .ok ⟨now, deadline, pace.interval, none, 0⟩
  | none => .error (.config (.timeoutOutOfRange pace.timeout))

def outcome (poll : Poll) (satisfied : Bool) (now : Instant) : PollOutcome :=
  ⟨satisfied, poll.last, poll.observations, poll.started.elapsed now⟩

def count (poll : Poll) (answer : Option Status) : Poll :=
  { poll with last := answer.or poll.last, observations := poll.observations + 1 }

def untilNext (poll : Poll) (now : Instant) : Duration :=
  .clamp (min poll.interval.nanos (poll.deadline - now))

def step (poll : Poll) (goal : Status → Bool) (answer : Option Status) (now : Instant) : Step :=
  let counted := poll.count answer
  if answer.any goal then .over (counted.outcome true now)
  else if poll.deadline ≤ now then .over (counted.outcome false now)
  else .rest (poll.untilNext now) counted

/-- Reads until the poll is over; `left` more reads can be counted. -/
def observe {α : Type} (goal : Status → Bool) (id : Uuid)
    (next : Instant → Except Error PollOutcome → Procedure α) (left : Nat) (poll : Poll) :
    Procedure α :=
  .read id fun now answer =>
    match answer with
    | .error fault => next now (.error fault)
    | .ok status =>
      match left with
      | 0 => next now (.error uncountable)
      | left + 1 =>
        match poll.step goal status now with
        | .over outcome => next now (.ok outcome)
        | .rest length poll => .pause length fun _ => observe goal id next left poll

def run {α : Type} (goal : Status → Bool) (id : Uuid) (pace : Pace) (now : Instant)
    (next : Instant → Except Error PollOutcome → Procedure α) : Procedure α :=
  match start pace now with
  | .error fault => next now (.error fault)
  | .ok poll => observe goal id next mostReads poll

end Poll

end DeliveryCheck
