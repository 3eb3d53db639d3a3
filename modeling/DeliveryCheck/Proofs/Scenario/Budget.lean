import DeliveryCheck.Scenario.Check
import DeliveryCheck.Proofs.Poll.Trail
import DeliveryCheck.Proofs.Procedure.Timely

namespace DeliveryCheck

variable {α : Type} {now due : Instant}

theorem Poll.observe_timely (goal : Status → Bool) (id : Uuid)
    {next : Instant → Except Error PollOutcome → Procedure α}
    (rest : ∀ now due result, (next now result).Timely now due) (left : Nat) {poll : Poll}
    (inTime : poll.deadline ≤ due) : (observe goal id next left poll).Timely now due := by
  induction left generalizing poll now due with
  | zero =>
    unfold observe
    intro took answer
    cases answer with
    | error fault => exact rest _ _ _
    | ok status => exact rest _ _ _
  | succ left ih =>
    unfold observe
    intro took answer
    cases answer with
    | error fault => exact rest _ _ _
    | ok status =>
      dsimp only
      split
      next => exact rest _ _ _
      next length following rests =>
        obtain ⟨_, before, rfl, rfl⟩ := step_rest rests
        have putOff : poll.deadline ≤ due + took := Nat.le_trans inTime (Nat.le_add_right ..)
        have wakes : now + took + (poll.untilNext (now + took)).nanos ≤ poll.deadline := by
          have short : (poll.untilNext (now + took)).nanos ≤ poll.deadline - (now + took) :=
            Nat.le_trans (Nat.min_le_left ..) (Nat.min_le_right ..)
          exact Nat.le_trans (Nat.add_le_add_left short _)
            (Nat.le_of_eq (Nat.add_sub_cancel' (Nat.le_of_lt before)))
        exact ⟨Nat.le_trans wakes putOff, ih putOff⟩

theorem Poll.run_timely (goal : Status → Bool) (id : Uuid) {pace : Pace}
    {next : Instant → Except Error PollOutcome → Procedure α}
    (rest : ∀ now due result, (next now result).Timely now due)
    (inTime : now + pace.timeout.nanos ≤ due) : (run goal id pace now next).Timely now due := by
  unfold run
  split
  next => exact rest _ _ _
  next poll begun =>
    apply observe_timely goal id rest
    unfold start at begun
    split at begun
    next deadline found =>
      cases begun
      obtain ⟨_, rfl⟩ := Instant.after?_eq_some_iff.mp found
      exact inTime
    next => cases begun

namespace Scenario

variable (scenario : Scenario) (start : Instant) (id : Uuid)

theorem confirm_timely : (scenario.confirm start id).Timely now due := by
  intro took answer
  cases answer <;> trivial

theorem settle_timely (result : Except Error PollOutcome) :
    (scenario.settle start id now result).Timely now due := by
  cases result with
  | error fault => trivial
  | ok outcome =>
    rw [settle]
    split
    · exact scenario.confirm_timely start id
    · trivial

theorem await_timely (inTime : now + scenario.pace.timeout.nanos ≤ due) :
    (scenario.await start id now).Timely now due :=
  Poll.run_timely _ id (fun _ _ => scenario.settle_timely start id) inTime

theorem checkEarly_timely (inTime : now + scenario.wait.nanos + scenario.pace.timeout.nanos ≤ due) :
    (scenario.checkEarly start id).Timely now due := by
  intro took answer
  rcases answer with fault | (_ | status)
  · trivial
  · trivial
  · dsimp only
    split
    · trivial
    · have putOff : now + took + scenario.wait.nanos + scenario.pace.timeout.nanos ≤ due + took := by
        rw [Nat.add_right_comm now, Nat.add_right_comm (now + scenario.wait.nanos)]
        exact Nat.add_le_add_right inTime took
      exact ⟨Nat.le_trans (Nat.le_add_right ..) putOff, scenario.await_timely start id putOff⟩

theorem follow_timely (inTime : now + scenario.wait.nanos + scenario.pace.timeout.nanos ≤ due) :
    (scenario.follow start id now).Timely now due := by
  have polled : now + scenario.pace.timeout.nanos ≤ due := by
    rw [Nat.add_right_comm] at inTime
    exact Nat.le_trans (Nat.le_add_right ..) inTime
  unfold follow
  dsimp only [Procedure.Timely]
  split
  · exact scenario.checkEarly_timely start id inTime
  · exact scenario.await_timely start id polled
  · exact scenario.await_timely start id polled

theorem check_timely (wall : Timestamp) :
    (scenario.check start wall).Timely start
      (start + scenario.wait.nanos + scenario.pace.timeout.nanos) := by
  unfold check
  split
  next => trivial
  next =>
    intro took answer
    cases answer with
    | error fault => trivial
    | ok id =>
      have putOff : start + took + scenario.wait.nanos + scenario.pace.timeout.nanos =
          start + scenario.wait.nanos + scenario.pace.timeout.nanos + took := by
        rw [Nat.add_right_comm start, Nat.add_right_comm (start + scenario.wait.nanos)]
      exact scenario.follow_timely start id (Nat.le_of_eq putOff)

theorem waits_le_budget (exact : scenario.budget.nanos < Duration.limit) :
    scenario.wait.nanos + scenario.pace.timeout.nanos ≤ scenario.budget.nanos := by
  have timeout := scenario.pace.timeout.nanos_le
  change (scenario.wait + (scenario.pace.timeout + scenario.pace.interval)).nanos < _ at exact
  change _ ≤ (scenario.wait + (scenario.pace.timeout + scenario.pace.interval)).nanos
  rw [Duration.nanos_add, Duration.nanos_add] at exact ⊢
  omega

end Scenario

end DeliveryCheck
