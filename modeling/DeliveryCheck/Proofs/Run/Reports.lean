import DeliveryCheck.Run.All
import DeliveryCheck.Proofs.Procedure.Together

namespace DeliveryCheck

def Event.result? : Event → Option ScenarioResult
  | .reported _ result => some result
  | .inserted .. | .read .. | .entered _ | .printed _ | .closed _ => none

namespace World

variable {σ : Type} {world after : World σ} {story : List Event}

theorem reported_eq (world : World σ) :
    world.reported = world.history.reverse.filterMap Event.result? := by
  rw [reported]
  congr 1
  funext event
  cases event <;> rfl

theorem reported_append (history : after.history = story.reverse ++ world.history) :
    after.reported = world.reported ++ story.filterMap Event.result? := by
  rw [reported_eq, reported_eq, history, List.reverse_append, List.reverse_reverse,
    List.filterMap_append]

theorem reported_of_silent (history : after.history = story.reverse ++ world.history)
    (silent : ∀ event ∈ story, event.result? = none) : after.reported = world.reported := by
  rw [reported_append history, List.filterMap_eq_nil_iff.mpr silent, List.append_nil]

theorem reported_report (announce : ScenarioResult → List String) (result : ScenarioResult)
    (world : World σ) : (world.report announce result).reported = world.reported ++ [result] := by
  rw [reported_append (world.history_report announce result)]
  simp [Event.result?]

end World

variable {σ α : Type} {identity : Nat → Identity} {story : List Event}

theorem Procedure.Course.silent {procedure : Procedure α} {now ended : Instant} {result : Option α}
    (course : procedure.Course identity now story ended result) :
    ∀ event ∈ story, event.result? = none := by
  induction course with
  | cut | done => simp
  | pause _ ih => exact ih
  | enter _ ih => exact List.forall_mem_cons.mpr ⟨rfl, ih⟩
  | insert _ _ ih | read _ _ ih => exact List.forall_mem_cons.mpr ⟨rfl, ih⟩

theorem Task.Course.silent {task : Task σ α} {result : Option α}
    (course : task.Course identity story result) : ∀ event ∈ story, event.result? = none := by
  cases course with
  | cut | finished => simp
  | ready course => exact course.silent
  | inserted course | answered course => exact List.forall_mem_cons.mpr ⟨rfl, course.silent⟩

theorem Procedure.reported_alone (setting : Setting σ) (limit : Option Instant)
    (procedure : Procedure α) (world : World σ) :
    (procedure.alone setting limit world).2.reported = world.reported := by
  obtain ⟨story, course, history⟩ := alone_course setting limit procedure world
  exact World.reported_of_silent history course.silent

theorem Task.reported_together (setting : Setting σ) (limit : Option Instant)
    (tasks : List (Task σ α)) (world : World σ) :
    (together setting limit tasks world).2.reported = world.reported := by
  obtain ⟨lives, told, live, whole, history, _⟩ := together_course setting limit tasks world
  apply World.reported_of_silent history
  intro event member
  obtain ⟨story, listed, member⟩ := whole.mem_iff.mp member
  obtain ⟨life, lived, rfl⟩ := List.mem_map.mp listed
  obtain ⟨task, _, course⟩ := live.of_mem lived
  exact course.silent event member

theorem Run.reported_handOver (announce : ScenarioResult → List String)
    (ends : List (Except Error ScenarioResult)) (world : World σ) :
    (handOver announce ends world).2.reported =
      world.reported ++ ends.filterMap Except.toOption := by
  induction ends generalizing world with
  | nil => rw [handOver, List.filterMap_nil, List.append_nil]
  | cons first rest ih =>
    cases first with
    | error fault =>
      rw [handOver, ih]
      rfl
    | ok result =>
      rw [handOver, ih, World.reported_report, List.append_assoc]
      rfl

end DeliveryCheck
