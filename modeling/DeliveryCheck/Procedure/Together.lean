import DeliveryCheck.Procedure.Task
/-!
Carrying out several procedures together. The task that wakes first takes the next step, and of tasks
that wake together the one listed first, which therefore goes as far as it can at that instant before
the others do. A limit cuts all of them off once none wakes before it.
-/

namespace DeliveryCheck

namespace Task

variable {σ α : Type}

def soonest : List (Task σ α) → Option Instant
  | [] => none
  | task :: rest => (task.wake?.toList ++ (soonest rest).toList).min?

def stepFirst (setting : Setting σ) (world : World σ) :
    List (Task σ α) → Option (List (Task σ α) × World σ)
  | [] => none
  | task :: rest =>
    if task.wake? = some world.now then
      let (later, world') := task.step setting world
      some (later :: rest, world')
    else
      (stepFirst setting world rest).map fun (later, world') => (task :: later, world')

theorem stepFirst_follows {setting : Setting σ} {world after : World σ}
    {tasks later : List (Task σ α)} (stepped : stepFirst setting world tasks = some (later, after)) :
    TasksFollow later tasks := by
  induction tasks generalizing later with
  | nil => simp [stepFirst] at stepped
  | cons task rest ih =>
    simp only [stepFirst] at stepped
    split at stepped
    · rename_i waits
      simp only [Option.some.injEq, Prod.mk.injEq] at stepped
      rw [← stepped.1]
      exact .head (step_follows setting world (by simp [waits]))
    · simp only [Option.map_eq_some_iff, Prod.exists, Prod.mk.injEq] at stepped
      obtain ⟨others, world', found, same, _⟩ := stepped
      subst same
      exact .tail (ih (by rw [found]; simp_all))

instance : WellFoundedRelation (List (Task σ α)) := ⟨TasksFollow, ⟨TasksFollow.acc⟩⟩

def together (setting : Setting σ) (limit : Option Instant) (tasks : List (Task σ α))
    (world : World σ) : Option (List α) × World σ :=
  match soonest tasks with
  | none => (some (tasks.filterMap result?), world)
  | some wake =>
    if isCut limit wake then (none, world.cut limit)
    else match _stepped : stepFirst setting (world.moveTo wake) tasks with
      | none => (some (tasks.filterMap result?), world)
      | some (later, after) => together setting limit later after
termination_by tasks
decreasing_by exact stepFirst_follows _stepped

end Task

end DeliveryCheck
