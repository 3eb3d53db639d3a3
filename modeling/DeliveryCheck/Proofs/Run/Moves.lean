import Mathlib.Logic.Relation
import DeliveryCheck.Run.All
import DeliveryCheck.Proofs.Procedure.Together
/-!
The moves of the world. Whatever is run, the world changes only by waiting, by noting something that is
no call of the store, and by calls that the store accepts and later settles. What each of these moves
keeps is kept by every run.
-/

namespace DeliveryCheck

namespace World

variable {σ : Type}

/-- One move of the world. A call is settled as the store accepted it, but perhaps in another state. -/
inductive Move (setting : Setting σ) : World σ → World σ → Prop where
  | wait {world now} : Move setting world (world.moveTo now)
  | note {world event} (silent : event.isCall = false) : Move setting world (world.note event)
  | beginInsert {world make} : Move setting world (world.beginInsert setting make).2.2
  | beginRead {world id} : Move setting world (world.beginRead setting id).2
  | settleInsert {world record began ended number state} :
    Move setting world
      (world.settle (setting.store.insert record began state).1 ended
        (.inserted began ended number record)).2
  | settleRead {world id began ended state} :
    Move setting world
      (world.settle (setting.store.read id began state).1 ended (.read began ended id)).2

def Moves (setting : Setting σ) : World σ → World σ → Prop := Relation.ReflTransGen (Move setting)

theorem Moves.refl {setting : Setting σ} {world : World σ} : Moves setting world world :=
  Relation.ReflTransGen.refl

theorem Moves.trans {setting : Setting σ} {first second third : World σ}
    (one : Moves setting first second) (two : Moves setting second third) :
    Moves setting first third := Relation.ReflTransGen.trans one two

theorem Moves.head {setting : Setting σ} {first second third : World σ}
    (move : Move setting first second) (rest : Moves setting second third) :
    Moves setting first third := Relation.ReflTransGen.head move rest

theorem Move.moves {setting : Setting σ} {first second : World σ} (move : Move setting first second) :
    Moves setting first second := Relation.ReflTransGen.single move

end World

open World (Move Moves)

variable {σ α : Type} (setting : Setting σ)

namespace Procedure

theorem alone_moves (limit : Option Instant) (procedure : Procedure α) (world : World σ) :
    Moves setting world (procedure.alone setting limit world).2 := by
  induction procedure generalizing world with
  | done result => exact .refl
  | enter mark next ih => exact .head (.note rfl) (ih _)
  | pause length next ih =>
    rw [alone]
    split
    · exact Move.wait.moves
    · exact .head .wait (ih _ _)
  | insert make next ih =>
    rw [alone_insert]
    dsimp only
    split
    · exact .head .beginInsert Move.wait.moves
    · exact .head .beginInsert (.head .settleInsert (ih _ _ _))
  | read id next ih =>
    rw [alone_read]
    dsimp only
    split
    · exact .head .beginRead Move.wait.moves
    · exact .head .beginRead (.head .settleRead (ih _ _ _))

end Procedure

namespace Task

def Genuine : Task σ α → Prop
  | finished _ | ready .. => True
  | inserting began _ _ record call _ => ∃ state, call = (setting.store.insert record began state).1
  | reading began _ id call _ => ∃ state, call = (setting.store.read id began state).1

theorem genuine_begin (world : World σ) (procedure : Procedure α) :
    (begin setting world procedure).1.Genuine setting := by
  cases procedure with
  | insert | read => exact ⟨world.state, rfl⟩
  | done | enter | pause => trivial

theorem genuine_step (world : World σ) (task : Task σ α) :
    (step setting world task).1.Genuine setting := by
  cases task with
  | ready wake procedure => exact genuine_begin setting world procedure
  | finished | inserting | reading => trivial

theorem begin_moves (world : World σ) (procedure : Procedure α) :
    Moves setting world (begin setting world procedure).2 := by
  cases procedure with
  | done | pause => exact .refl
  | enter => exact (Move.note rfl).moves
  | insert => exact Move.beginInsert.moves
  | read => exact Move.beginRead.moves

variable {setting}

theorem Genuine.step_moves {task : Task σ α} (genuine : task.Genuine setting) (world : World σ) :
    Moves setting world (step setting world task).2 := by
  cases task with
  | finished => exact .refl
  | ready wake procedure => exact begin_moves setting world procedure
  | inserting =>
    obtain ⟨state, rfl⟩ := genuine
    exact Move.settleInsert.moves
  | reading =>
    obtain ⟨state, rfl⟩ := genuine
    exact Move.settleRead.moves

theorem together_moves (limit : Option Instant) {tasks : List (Task σ α)}
    (genuine : ∀ task ∈ tasks, task.Genuine setting) (world : World σ) :
    Moves setting world (together setting limit tasks world).2 := by
  induction tasks, world using together_induct setting limit with
  | finished => exact .refl
  | cut => exact Move.wait.moves
  | stepped before task rest world wake run _ _ _ _ ih =>
    have steps := (genuine task (by simp)).step_moves (world.moveTo wake)
    refine .head .wait (steps.trans (ih ?_))
    intro other member
    rcases List.mem_append.mp member with member | member
    · exact genuine other (by simp [member])
    · rcases List.mem_cons.mp member with rfl | member
      · exact genuine_step setting (world.moveTo wake) task
      · exact genuine other (by simp [member])

end Task

namespace Run

variable (announce : ScenarioResult → List String)

theorem print_moves (lines : List String) (world : World σ) :
    Moves setting world (world.print lines) := by
  induction lines generalizing world with
  | nil => exact .refl
  | cons line rest ih => exact .head (.note rfl) (ih _)

theorem report_moves (result : ScenarioResult) (world : World σ) :
    Moves setting world (world.report announce result) :=
  .head (.note rfl) (print_moves setting _ _)

theorem inTurn_moves (limit : Option Instant) (scenarios : List Scenario) (world : World σ) :
    Moves setting world (inTurn setting announce limit scenarios world).2 := by
  induction scenarios generalizing world with
  | nil => exact .refl
  | cons scenario rest ih =>
    have checked := Procedure.alone_moves setting limit (begin setting world scenario) world
    rw [inTurn]
    split
    next ran => rw [ran] at checked; exact checked
    next ran => rw [ran] at checked; exact checked
    next result after ran =>
      rw [ran] at checked
      exact checked.trans ((report_moves setting announce result after).trans (ih _))

theorem handOver_moves (ends : List (Except Error ScenarioResult)) (world : World σ) :
    Moves setting world (handOver announce ends world).2 := by
  induction ends generalizing world with
  | nil => exact .refl
  | cons first rest ih =>
    cases first with
    | error fault => exact ih world
    | ok result => exact (report_moves setting announce result world).trans (ih _)

theorem genuine_checks (scenarios : List Scenario) (world : World σ) :
    ∀ task ∈ scenarios.map fun scenario => Task.ready world.now (begin setting world scenario),
      task.Genuine setting := by
  intro task member
  obtain ⟨scenario, _, rfl⟩ := List.mem_map.mp member
  trivial

theorem atOnce_moves (limit : Option Instant) (scenarios : List Scenario) (world : World σ) :
    Moves setting world (atOnce setting announce limit scenarios world).2 := by
  have ran := Task.together_moves limit (genuine_checks setting scenarios world) world
  rw [atOnce]
  split
  next stopped => rw [stopped] at ran; exact ran
  next ends after finished =>
    rw [finished] at ran
    exact ran.trans (handOver_moves setting announce ends after)

theorem all_moves (options : RunOptions) (scenarios : List Scenario) (world : World σ) :
    Moves setting world (all setting announce options scenarios world).2 := by
  rw [all]
  cases options.concurrent with
  | true => exact atOnce_moves setting announce _ scenarios world
  | false => exact inTurn_moves setting announce _ scenarios world

end Run

end DeliveryCheck
