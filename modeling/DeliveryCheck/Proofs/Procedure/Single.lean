import DeliveryCheck.Proofs.Procedure.Together

namespace DeliveryCheck

theorem Interleaved.eq_of_single {β : Type} {story told : List β}
    (whole : Interleaved [story] told) : told = story := by
  have part := whole.sublist story (List.mem_singleton_self story)
  have same := whole.perm.length_eq
  rw [List.flatten_singleton] at same
  exact (part.eq_of_length same.symm).symm

namespace Task

variable {σ α : Type} (setting : Setting σ)

theorem soonest_single (task : Task σ α) : soonest [task] = task.wake? := by
  rw [soonest, soonest]
  cases task.wake? <;> rfl

theorem together_single_step {task : Task σ α} {wake : Instant} (world : World σ)
    (wakes : task.wake? = some wake) :
    together setting none [task] world =
      together setting none [(step setting (world.moveTo wake) task).1]
        (step setting (world.moveTo wake) task).2 := by
  have found : soonest ([] ++ task :: []) = some wake := by rw [List.nil_append, soonest_single, wakes]
  exact together_of_step found rfl wakes (by simp)

theorem together_single_wake (procedure : Procedure α) (wake : Instant) (world : World σ) :
    together setting none [ready wake procedure] world =
      together setting none [ready wake procedure] (world.moveTo wake) :=
  (together_single_step setting world rfl).trans
    (together_single_step setting (world.moveTo wake) rfl).symm

theorem together_single (procedure : Procedure α) (world : World σ) :
    together setting none [ready world.now procedure] world =
      ((procedure.alone setting none world).1.map ([·]), (procedure.alone setting none world).2) := by
  induction procedure generalizing world with
  | done result =>
    rw [together_single_step setting world rfl, together]
    rfl
  | enter mark next ih =>
    exact (together_single_step setting world rfl).trans (ih (world.note (.entered mark)))
  | pause length next ih =>
    refine (together_single_step setting world rfl).trans ?_
    refine (together_single_wake setting (next (world.now.after length)) _ _).trans ?_
    exact ih _ (world.moveTo (world.now.after length))
  | insert make next ih =>
    refine (together_single_step setting world rfl).trans ?_
    refine (together_single_step setting _ rfl).trans ?_
    let begun := world.beginInsert setting make
    let ended := world.now.after begun.2.1.takes
    let settled := begun.2.2.settle begun.2.1 ended (.inserted world.now ended world.issued begun.1)
    exact ih ended settled.1 settled.2
  | read id next ih =>
    refine (together_single_step setting world rfl).trans ?_
    refine (together_single_step setting _ rfl).trans ?_
    let begun := world.beginRead setting id
    let ended := world.now.after begun.1.takes
    let settled := begun.2.settle begun.1 ended (.read world.now ended id)
    exact ih ended settled.1 settled.2

theorem stories_single (procedure : Procedure α) (world : World σ) :
    stories setting none [ready world.now procedure] world =
      [(procedure.alone setting none world).2.since world] := by
  obtain ⟨lives, told, same, live, whole, history, _⟩ :=
    stories_course setting none [ready world.now procedure] world
  rw [together_single] at history
  obtain ⟨life, _, _, onward, rfl⟩ := List.forall₂_cons_right_iff.mp live
  rw [List.forall₂_nil_right_iff.mp onward] at same whole
  rw [← same, World.since_eq history, whole.eq_of_single]
  rfl

theorem together_of_settled {setting : Setting σ} {limit : Option Instant} {tasks : List (Task σ α)}
    {world : World σ} {ends : List α} (settles : (together setting limit tasks world).1 = some ends) :
    together setting none tasks world = together setting limit tasks world := by
  induction tasks, world using together_induct setting limit with
  | finished tasks world waitless =>
    rw [together]
    simp only [waitless]
  | cut => cases settles
  | stepped before task rest world wake run found _ wakes first ih =>
    exact (together_of_step found rfl wakes first).trans (ih settles)

end Task

theorem Procedure.alone_of_settled {σ α : Type} {setting : Setting σ} {limit : Option Instant}
    {procedure : Procedure α} {world : World σ} {result : α}
    (settles : (procedure.alone setting limit world).1 = some result) :
    procedure.alone setting none world = procedure.alone setting limit world ∧
      world.now ≤ (procedure.alone setting limit world).2.now ∧
      (isCut limit world.now = false →
        isCut limit (procedure.alone setting limit world).2.now = false) := by
  induction procedure generalizing world with
  | done => exact ⟨rfl, Nat.le_refl _, id⟩
  | enter mark next ih => exact ih settles
  | pause length next ih =>
    rw [alone] at settles ⊢
    rw [alone]
    split at settles
    next => cases settles
    next goes =>
      rw [if_neg goes]
      obtain ⟨same, later, inTime⟩ := ih _ settles
      exact ⟨same, Nat.le_trans (world.now.le_after length) later, fun _ => inTime (by simpa using goes)⟩
  | insert make next ih =>
    obtain ⟨ended, number, answer, later, after, rfl, _, goes⟩ :=
      alone_insert_goes setting make next world
    cases cut : isCut limit later.now with
    | true =>
      rw [((goes limit).2 cut).1] at settles
      cases settles
    | false =>
      rw [(goes limit).1 cut] at settles ⊢
      rw [(goes none).1 rfl]
      obtain ⟨same, onward, inTime⟩ := ih _ _ settles
      exact ⟨same, Nat.le_trans after onward, fun _ => inTime cut⟩
  | read id next ih =>
    obtain ⟨ended, answer, later, after, rfl, _, goes⟩ := alone_read_goes setting id next world
    cases cut : isCut limit later.now with
    | true =>
      rw [((goes limit).2 cut).1] at settles
      cases settles
    | false =>
      rw [(goes limit).1 cut] at settles ⊢
      rw [(goes none).1 rfl]
      obtain ⟨same, onward, inTime⟩ := ih _ _ settles
      exact ⟨same, Nat.le_trans after onward, fun _ => inTime cut⟩

end DeliveryCheck
