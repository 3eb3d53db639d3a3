import DeliveryCheck.Run.All
import DeliveryCheck.Proofs.Run.World

namespace DeliveryCheck

theorem Instant.le_roundUp (instant : Nat) : instant ≤ Instant.roundUp instant := by
  unfold roundUp millisecond
  omega

namespace Run

variable {σ : Type} (setting : Setting σ) (announce : ScenarioResult → List String)

/-- A run as far as a limit; nothing is returned if that comes first. -/
def upTo (limit : Option Instant) (concurrent : Bool) (scenarios : List Scenario) (world : World σ) :
    Option (Except Error Unit) × World σ :=
  if concurrent then atOnce setting announce limit scenarios world
  else inTurn setting announce limit scenarios world

def IsCutOff (options : RunOptions) (scenarios : List Scenario) (world : World σ) : Prop :=
  (upTo setting announce (some (options.deadline scenarios world.now)) options.concurrent scenarios
    world).1 = none

variable {setting announce} {options : RunOptions} {scenarios : List Scenario} {world : World σ}

theorem world_all : (all setting announce options scenarios world).2 =
    (upTo setting announce (some (options.deadline scenarios world.now)) options.concurrent scenarios
      world).2 := rfl

theorem verdict_of_isCutOff (cut : IsCutOff setting announce options scenarios world) :
    (all setting announce options scenarios world).1 =
      .error (.runTimeout (options.budget scenarios)) := by
  change ((upTo setting announce (some (options.deadline scenarios world.now)) options.concurrent
    scenarios world).1).getD _ = _
  rw [cut]
  rfl

theorem upTo_of_not_isCutOff (settles : ¬ IsCutOff setting announce options scenarios world) :
    upTo setting announce (some (options.deadline scenarios world.now)) options.concurrent scenarios
        world =
      (some (all setting announce options scenarios world).1,
        (all setting announce options scenarios world).2) := by
  obtain ⟨verdict, ended⟩ := Option.ne_none_iff_exists'.mp settles
  refine Prod.ext ?_ rfl
  change _ = some (((upTo setting announce (some (options.deadline scenarios world.now))
    options.concurrent scenarios world).1).getD _)
  rw [ended]
  rfl

theorem now_le_deadline (options : RunOptions) (scenarios : List Scenario) (now : Instant) :
    now ≤ options.deadline scenarios now :=
  Nat.le_trans (now.le_after _) (Instant.le_roundUp _)

end Run

end DeliveryCheck
