import DeliveryCheck.Scenario.Check
import DeliveryCheck.Proofs.Poll.Account

namespace DeliveryCheck

namespace Scenario

/-- The errors that a check has without a call that fails. -/
def OwnFault (scenario : Scenario) (fault : Error) : Prop :=
  fault = .scenario (.spec scenario.name (.delayOutOfRange scenario.delay)) ∨
    fault = .config (.timeoutOutOfRange scenario.pace.timeout) ∨ fault = Poll.uncountable

/-- What may be left of a check that started at an instant and has stored its record. -/
inductive Stage (scenario : Scenario) (start : Instant) (id : Uuid) :
    Procedure (Except Error ScenarioResult) → Prop where
  | refuses {fault} (own : scenario.OwnFault fault) : Stage scenario start id (.done (.error fault))
  | resolves {outcome now} : Stage scenario start id (scenario.resolve start id outcome now)
  | enters {phase now next} (earlier : phase ≠ .resolved) (rest : Stage scenario start id next) :
    Stage scenario start id (.enter (scenario.mark start phase now) next)
  | pauses {length next} (rest : ∀ now, Stage scenario start id (next now)) :
    Stage scenario start id (.pause length next)
  | reads {next} (stops : ∀ now fault, next now (.error fault) = .done (.error fault))
    (rest : ∀ now status, Stage scenario start id (next now (.ok status))) :
    Stage scenario start id (.read id next)

variable {scenario : Scenario} {start : Instant} {id : Uuid}
  {next : Instant → Except Error PollOutcome → Procedure (Except Error ScenarioResult)}

theorem observe_stage (goal : Status → Bool)
    (stops : ∀ now fault, next now (.error fault) = .done (.error fault))
    (rest : ∀ now outcome, Stage scenario start id (next now (.ok outcome))) (left : Nat)
    (poll : Poll) : Stage scenario start id (Poll.observe goal id next left poll) := by
  induction left generalizing poll with
  | zero =>
    unfold Poll.observe
    refine .reads stops fun now status => ?_
    dsimp only
    rw [stops]
    exact .refuses (.inr (.inr rfl))
  | succ left ih =>
    unfold Poll.observe
    refine .reads stops fun now status => ?_
    dsimp only
    split
    · exact rest now _
    · exact .pauses fun _ => ih _

variable (scenario start id) (now : Instant)

theorem confirm_stage : Stage scenario start id (scenario.confirm start id) :=
  .reads (fun _ _ => rfl) fun _ _ => .resolves

theorem settle_stage (outcome : PollOutcome) :
    Stage scenario start id (scenario.settle start id now (.ok outcome)) := by
  rw [settle]
  split
  · exact scenario.confirm_stage start id
  · exact .resolves

theorem await_stage : Stage scenario start id (scenario.await start id now) := by
  refine .enters nofun ?_
  unfold Poll.run
  split
  next fault refused =>
    obtain ⟨_, rfl⟩ := Poll.start_error refused
    exact .refuses (.inr (.inl rfl))
  next => exact observe_stage _ (fun _ _ => rfl) (scenario.settle_stage start id) _ _

theorem checkEarly_stage : Stage scenario start id (scenario.checkEarly start id) := by
  refine .reads (fun _ _ => rfl) fun now status => ?_
  cases status with
  | none => exact .resolves
  | some status =>
    dsimp only
    split
    · exact .resolves
    · exact .enters nofun (.pauses fun now => scenario.await_stage start id now)

theorem follow_stage : Stage scenario start id (scenario.follow start id now) := by
  refine .enters nofun ?_
  split
  · exact scenario.checkEarly_stage start id
  · exact scenario.await_stage start id now
  · exact scenario.await_stage start id now

theorem record?_error {wall : Timestamp} {fault : Error}
    (refused : scenario.record? wall = .error fault) : scenario.OwnFault fault := by
  unfold record? at refused
  split at refused
  · cases refused
  · cases refused
  · split at refused
    · cases refused
    · cases refused
      exact .inl rfl

theorem check_cases (wall : Timestamp) :
    (∃ fault, scenario.OwnFault fault ∧ scenario.check start wall = .done (.error fault)) ∨
      ∃ make next, scenario.record? wall = .ok make ∧
        scenario.check start wall = .insert make next ∧
        (∀ now fault, next now (.error fault) = .done (.error fault)) ∧
        ∀ now id, Stage scenario start id (next now (.ok id)) := by
  unfold check
  cases made : scenario.record? wall with
  | error fault => exact .inl ⟨fault, scenario.record?_error made, rfl⟩
  | ok make =>
    exact .inr ⟨make, _, rfl, rfl, fun _ _ => rfl, fun now id => scenario.follow_stage start id now⟩

end Scenario

namespace Event

def fault? : Event → Option Error
  | .inserted _ _ _ _ (.error fault) | .read _ _ _ (.error fault) => some fault
  | .inserted _ _ _ _ (.ok _) | .read _ _ _ (.ok _) => none
  | .entered _ | .reported .. | .printed _ | .closed _ => none

theorem isCall_of_fault? {event : Event} {fault : Error} (fails : event.fault? = some fault) :
    event.isCall := by
  cases event with
  | inserted | read => rfl
  | entered | reported | printed | closed => cases fails

/-- The last of some events is a call that failed, and the only one. -/
def FaultLast (story : List Event) (fault : Error) : Prop :=
  ∃ earlier last, story = earlier ++ [last] ∧ (∀ event ∈ earlier, event.fault? = none) ∧
    last.fault? = some fault

variable {before story behind : List Event} {event : Event} {fault other : Error}

theorem FaultLast.append (last : FaultLast story fault)
    (succeed : ∀ event ∈ before, event.fault? = none) : FaultLast (before ++ story) fault := by
  obtain ⟨earlier, failing, rfl, others, fails⟩ := last
  exact ⟨before ++ earlier, failing, (List.append_assoc ..).symm,
    List.forall_mem_append.mpr ⟨succeed, others⟩, fails⟩

theorem FaultLast.is_last (last : FaultLast story fault) (split : story = before ++ event :: behind)
    (fails : event.fault? = some other) : behind = [] ∧ other = fault := by
  obtain ⟨earlier, failing, rfl, others, failed⟩ := last
  rcases List.eq_nil_or_concat behind with rfl | ⟨between, final, rfl⟩
  · obtain ⟨_, same⟩ := List.append_inj' split rfl
    cases same
    rw [failed] at fails
    cases fails
    exact ⟨rfl, rfl⟩
  · rw [List.concat_eq_append, ← List.cons_append, ← List.append_assoc] at split
    obtain ⟨same, _⟩ := List.append_inj' split rfl
    have succeeds := others event (by simp [same])
    rw [succeeds] at fails
    cases fails

theorem FaultLast.filter_isCall (last : FaultLast story fault) :
    FaultLast (story.filter isCall) fault := by
  obtain ⟨earlier, failing, rfl, others, fails⟩ := last
  refine ⟨earlier.filter isCall, failing, ?_, ?_, fails⟩
  · rw [List.filter_append, List.filter_cons_of_pos (isCall_of_fault? fails), List.filter_nil]
  · exact fun event member => others event (List.mem_filter.mp member).1

end Event

/-- How the error of a procedure follows from its events: it is that of its last call, the only one that
failed, or an error of its own. -/
def Event.Explains (own : Error → Prop) (story : List Event)
    (answer : Option (Except Error ScenarioResult)) : Prop :=
  ((∀ event ∈ story, event.fault? = none) ∧ ∀ fault, answer = some (.error fault) → own fault) ∨
    ∃ fault, FaultLast story fault ∧ ∀ finish, answer = some finish → finish = .error fault

namespace Scenario

variable {scenario : Scenario} {start now ended : Instant} {id : Uuid} {identity : Nat → Identity}
  {story : List Event} {answer : Option (Except Error ScenarioResult)}
  {procedure : Procedure (Except Error ScenarioResult)}

theorem explains_nil {own : Error → Prop} (owned : ∀ fault, answer = some (.error fault) → own fault) :
    Event.Explains own [] answer := .inl ⟨by simp, owned⟩

theorem explains_cons {own : Error → Prop} {event : Event} (succeeds : event.fault? = none)
    (explains : Event.Explains own story answer) : Event.Explains own (event :: story) answer := by
  rcases explains with ⟨succeed, owned⟩ | ⟨fault, last, decides⟩
  · exact .inl ⟨List.forall_mem_cons.mpr ⟨succeeds, succeed⟩, owned⟩
  · have others : ∀ other ∈ [event], other.fault? = none := by simpa using succeeds
    exact .inr ⟨fault, last.append others, decides⟩

theorem explains_of_fault {own : Error → Prop} {event : Event} {fault : Error}
    (fails : event.fault? = some fault)
    (course : (Procedure.done (.error fault)).Course identity now story ended answer) :
    Event.Explains own (event :: story) answer := by
  rw [course.nil_of_done]
  refine .inr ⟨fault, ⟨[], event, rfl, by simp, fails⟩, fun finish same => ?_⟩
  subst same
  exact course.of_done.2.2

theorem Stage.explains (stage : Stage scenario start id procedure)
    (course : procedure.Course identity now story ended answer) :
    Event.Explains scenario.OwnFault story answer := by
  induction stage generalizing now story with
  | refuses own =>
    rw [course.nil_of_done]
    refine explains_nil fun fault same => ?_
    subst same
    cases course.of_done.2.2
    exact own
  | resolves =>
    cases course with
    | cut => exact explains_nil nofun
    | enter rest =>
      rw [rest.nil_of_done]
      refine explains_cons rfl (explains_nil fun fault same => ?_)
      subst same
      cases rest.of_done.2.2
  | enters _ _ ih =>
    cases course with
    | cut => exact explains_nil nofun
    | enter rest => exact explains_cons rfl (ih rest)
  | pauses _ ih =>
    cases course with
    | cut => exact explains_nil nofun
    | pause rest => exact ih _ rest
  | reads stops _ ih =>
    cases course with
    | cut => exact explains_nil nofun
    | @read _ _ _ instant read _ _ _ _ rest =>
      cases read with
      | error fault =>
        rw [stops] at rest
        exact explains_of_fault rfl rest
      | ok status => exact explains_cons rfl (ih _ _ rest)

theorem check_explains {wall : Timestamp}
    (course : (scenario.check start wall).Course identity now story ended answer) :
    Event.Explains scenario.OwnFault story answer := by
  rcases scenario.check_cases start wall with
    ⟨fault, own, same⟩ | ⟨make, next, _, same, stops, rest⟩
  · rw [same] at course
    have stage : Stage scenario start .nil (.done (.error fault)) := .refuses own
    exact stage.explains course
  · rw [same] at course
    cases course with
    | cut => exact explains_nil nofun
    | @insert _ _ _ instant number stored _ _ _ _ onward =>
      cases stored with
      | error fault =>
        rw [stops] at onward
        exact explains_of_fault rfl onward
      | ok id => exact explains_cons rfl ((rest instant id).explains onward)

end Scenario

end DeliveryCheck
