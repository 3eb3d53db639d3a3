import DeliveryCheck.Procedure.Alone
import DeliveryCheck.Procedure.Together
import DeliveryCheck.Scenario.Check
/-!
Running a list of scenarios, one after another or all together, within a budget. One after another,
each result is handed over as soon as it is there and the first error stops the run; together, the
results are handed over in the order of the list once every scenario has ended, and the error of the
first one that has an error is the error of the run.
-/

namespace DeliveryCheck

structure RunOptions where
  concurrent : Bool := false
  grace : Duration := .ofSeconds 5
deriving DecidableEq

namespace RunOptions

/-- The time that the scenarios may take: all their budgets together, or the largest of them. -/
def scenarioBudget (options : RunOptions) (scenarios : List Scenario) : Duration :=
  if options.concurrent then (scenarios.map Scenario.budget).foldl max .zero
  else (scenarios.map Scenario.budget).foldl (· + ·) .zero

def budget (options : RunOptions) (scenarios : List Scenario) : Duration :=
  options.scenarioBudget scenarios + options.grace

def deadline (options : RunOptions) (scenarios : List Scenario) (now : Instant) : Instant :=
  (now.after (options.budget scenarios)).roundUp

end RunOptions

namespace Run

variable {σ : Type} (setting : Setting σ) (announce : ScenarioResult → List String)

def begin (world : World σ) (scenario : Scenario) : Procedure (Except Error ScenarioResult) :=
  scenario.check world.now (setting.wall world.now)

def inTurn (limit : Option Instant) :
    List Scenario → World σ → Option (Except Error Unit) × World σ
  | [], world => (some (.ok ()), world)
  | scenario :: rest, world =>
    match (begin setting world scenario).alone setting limit world with
    | (none, after) => (none, after)
    | (some (.error fault), after) => (some (.error fault), after)
    | (some (.ok result), after) => inTurn limit rest (after.report announce result)

/-- Hands over the results among several ends of checks and keeps the first error. -/
def handOver : List (Except Error ScenarioResult) → World σ → Except Error Unit × World σ
  | [], world => (.ok (), world)
  | .ok result :: rest, world => handOver rest (world.report announce result)
  | .error fault :: rest, world => (.error fault, (handOver rest world).2)

def atOnce (limit : Option Instant) (scenarios : List Scenario) (world : World σ) :
    Option (Except Error Unit) × World σ :=
  let tasks := scenarios.map fun scenario => Task.ready world.now (begin setting world scenario)
  match Task.together setting limit tasks world with
  | (none, after) => (none, after)
  | (some ends, after) =>
    let (verdict, handed) := handOver announce ends after
    (some verdict, handed)

def all (options : RunOptions) (scenarios : List Scenario) (world : World σ) :
    Except Error Unit × World σ :=
  let limit := some (options.deadline scenarios world.now)
  let (ended, after) :=
    if options.concurrent then atOnce setting announce limit scenarios world
    else inTurn setting announce limit scenarios world
  (ended.getD (.error (.runTimeout (options.budget scenarios))), after)

end Run

end DeliveryCheck
