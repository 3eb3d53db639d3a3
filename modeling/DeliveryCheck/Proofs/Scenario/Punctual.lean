import DeliveryCheck.Scenario.Check
import DeliveryCheck.Proofs.Poll.Schedule
import DeliveryCheck.Proofs.Scenario.Timing

namespace DeliveryCheck

namespace Pace

variable {pace : Pace} {span : Nat}

/-- The first read that is no earlier than a given time into the poll. -/
def firstReadAfter (pace : Pace) (span : Nat) : Nat := span ⌈/⌉ pace.interval.nanos

theorem firstReadAfter_le (rests : 0 < pace.interval.nanos) (inTime : span ≤ pace.timeout.nanos) :
    pace.firstReadAfter span ≤ pace.restsBeforeDeadline := by
  rw [firstReadAfter, ceilDiv_le_iff_le_mul rests]
  exact Nat.le_trans inTime ((ceilDiv_le_iff_le_mul rests).mp (Nat.le_refl _))

theorem readAt_lt_of_lt_firstReadAfter (rests : 0 < pace.interval.nanos) {index : Nat}
    (before : index < pace.firstReadAfter span) : pace.readAt index < span := by
  rw [firstReadAfter, ← Nat.not_le, ceilDiv_le_iff_le_mul rests, Nat.not_le, Nat.mul_comm] at before
  exact Nat.lt_of_le_of_lt (Nat.min_le_left ..) before

theorem le_readAt_firstReadAfter (rests : 0 < pace.interval.nanos)
    (inTime : span ≤ pace.timeout.nanos) : span ≤ pace.readAt (pace.firstReadAfter span) := by
  rw [readAt, Nat.mul_comm]
  exact Nat.le_min.mpr ⟨(ceilDiv_le_iff_le_mul rests).mp (Nat.le_refl _), inTime⟩

end Pace

namespace Scenario

theorem Bounded.countable {scenario : Scenario} (bounded : scenario.Bounded) :
    scenario.pace.restsBeforeDeadline < Poll.mostReads := by
  have rests : 0 < scenario.pace.interval.nanos :=
    Nat.lt_of_lt_of_le (by decide) bounded.millisecond_le_interval
  have few := (ceilDiv_le_iff_le_mul rests).mpr bounded.timeout_le_rests
  exact Nat.lt_of_le_of_lt few (by decide)

def processedFrom (due now : Instant) : Option Status := some ⟨due ≤ now, 0, none⟩

theorem any_processedFrom (due now : Instant) :
    (processedFrom due now).any Status.processed = decide (due ≤ now) := rfl

variable {σ : Type} {setting : Setting σ} {id : Uuid} {ready : σ → Prop} {due : Instant}
  (scenario : Scenario) (start : Instant) (world : World σ)

theorem confirm_processed (prompt : setting.store.Prompt id ready (processedFrom due))
    (fits : world.now < Instant.limit) (held : ready world.state) (processed : due ≤ world.now) :
    ∃ after, (scenario.confirm start id).alone setting none world =
      (some (.ok (scenario.result start id .passed world.now)), after) := by
  obtain ⟨later, _, same⟩ := Procedure.alone_prompt_read setting prompt fits held
  refine ⟨later.note (.entered (scenario.mark start .resolved world.now)), ?_⟩
  rw [confirm, same]
  simp only [processedFrom, processed, decide_true, confirmed, if_true]
  rfl

theorem await_inTime (prompt : setting.store.Prompt id ready (processedFrom due))
    (fits : world.now + scenario.pace.timeout.nanos < Instant.limit)
    (rests : 0 < scenario.pace.interval.nanos)
    (countable : scenario.pace.restsBeforeDeadline < Poll.mostReads) (held : ready world.state)
    (inTime : due - world.now ≤ scenario.pace.timeout.nanos) :
    ∃ after, (scenario.await start id world.now).alone setting none world =
      (some (.ok (scenario.result start id .passed
        (world.now + scenario.pace.readAt (scenario.pace.firstReadAfter (due - world.now))))),
        after) := by
  let begun := world.note (.entered (scenario.mark start .awaiting world.now))
  have unsatisfied : ∀ index < scenario.pace.firstReadAfter (due - world.now),
      (processedFrom due (begun.now + scenario.pace.readAt index)).any Status.processed = false := by
    intro index before
    have early := Pace.readAt_lt_of_lt_firstReadAfter rests before
    rw [any_processedFrom, decide_eq_false_iff_not]
    exact Nat.not_le_of_lt (Nat.add_lt_of_lt_sub' early)
  have processed : due ≤
      begun.now + scenario.pace.readAt (scenario.pace.firstReadAfter (due - world.now)) :=
    Nat.sub_le_iff_le_add'.mp (Pace.le_readAt_firstReadAfter rests inTime)
  have satisfied := (any_processedFrom due _).trans (decide_eq_true processed)
  have within := Pace.firstReadAfter_le rests inTime
  obtain ⟨later, reached, same⟩ := Poll.run_ends (scenario.settle start id) begun prompt fits
    rests (Nat.lt_of_le_of_lt within countable) held within unsatisfied (.inl satisfied)
  have soon : later.now < Instant.limit := by
    rw [reached.now_eq]
    exact Nat.lt_of_le_of_lt (Nat.add_le_add_left Pace.readAt_le begun.now) fits
  rw [← reached.now_eq] at processed
  obtain ⟨after, confirmed⟩ :=
    confirm_processed scenario start later prompt soon reached.held processed
  refine ⟨after, ?_⟩
  rw [await, Procedure.alone_enter]
  refine same.trans ?_
  rw [settle, Poll.outcome, satisfied, if_pos rfl, confirmed, reached.now_eq]
  rfl

theorem await_tooLate (prompt : setting.store.Prompt id ready (processedFrom due))
    (fits : world.now + scenario.pace.timeout.nanos < Instant.limit)
    (rests : 0 < scenario.pace.interval.nanos)
    (countable : scenario.pace.restsBeforeDeadline < Poll.mostReads) (held : ready world.state)
    (tooLate : world.now + scenario.pace.timeout.nanos < due) :
    ∃ after, (scenario.await start id world.now).alone setting none world =
      (some (.ok (scenario.result start id
        (.failed (.timedOut (some .pending) scenario.pace.timeout
          (scenario.pace.restsBeforeDeadline + 1)))
        (world.now + scenario.pace.timeout.nanos))), after) := by
  let begun := world.note (.entered (scenario.mark start .awaiting world.now))
  have pending : ∀ index,
      processedFrom due (begun.now + scenario.pace.readAt index) = some .pending := by
    intro index
    have early : begun.now + scenario.pace.readAt index < due :=
      Nat.lt_of_le_of_lt (Nat.add_le_add_left Pace.readAt_le begun.now) tooLate
    rw [processedFrom, decide_eq_false (Nat.not_le_of_lt early)]
    rfl
  have unsatisfied : ∀ index, (processedFrom due (begun.now + scenario.pace.readAt index)).any
      Status.processed = false := by
    intro index
    rw [pending]
    rfl
  have deadline := Pace.readAt_restsBeforeDeadline rests
  obtain ⟨later, reached, same⟩ := Poll.run_ends (scenario.settle start id) begun prompt fits
    rests countable held (Nat.le_refl _) (fun index _ => unsatisfied index) (.inr deadline)
  have seen : Poll.lastSeen scenario.pace begun.now (processedFrom due)
      (scenario.pace.restsBeforeDeadline + 1) = some .pending := by
    rw [Poll.lastSeen, pending]
    rfl
  refine ⟨later.note (.entered (scenario.mark start .resolved later.now)), ?_⟩
  rw [await, Procedure.alone_enter]
  refine same.trans ?_
  rw [settle, Poll.outcome, unsatisfied, if_neg Bool.false_ne_true, Poll.onTime, seen,
    Poll.elapsed_readAt, deadline, Duration.clamp_nanos, reached.now_eq, deadline]
  rfl

theorem checkEarly_pending (prompt : setting.store.Prompt id ready (processedFrom due))
    (fits : world.now + scenario.wait.nanos < Instant.limit) (held : ready world.state)
    (pending : world.now < due) :
    ∃ later : World σ, later.now = world.now + scenario.wait.nanos ∧ ready later.state ∧
      (scenario.checkEarly start id).alone setting none world =
        (scenario.await start id later.now).alone setting none later := by
  have soon : world.now < Instant.limit := Nat.lt_of_le_of_lt (Nat.le_add_right ..) fits
  rw [checkEarly]
  obtain ⟨seen, reached, same⟩ := Procedure.alone_prompt_read setting prompt soon held
  let marked := seen.note (.entered (scenario.mark start .earlyChecked world.now))
  have moved : marked.now = world.now := reached.now_eq
  refine ⟨marked.moveTo (world.now + scenario.wait.nanos), rfl, reached.held, ?_⟩
  have early : decide (due ≤ world.now) = false := decide_eq_false (Nat.not_le_of_lt pending)
  rw [same]
  simp only [processedFrom, early, Bool.false_eq_true, if_false]
  rw [← moved] at fits
  rw [Procedure.alone_enter, Procedure.alone_pause setting fits, moved]
  rfl

theorem follow_pending (prompt : setting.store.Prompt id ready (processedFrom due))
    (fits : world.now + scenario.wait.nanos < Instant.limit) (held : ready world.state)
    (pending : scenario.kind = .scheduled → world.now < due)
    (direct : scenario.kind ≠ .scheduled → scenario.wait.nanos = 0) :
    ∃ later : World σ, later.now = world.now + scenario.wait.nanos ∧ ready later.state ∧
      (scenario.follow start id world.now).alone setting none world =
        (scenario.await start id later.now).alone setting none later := by
  let begun := world.note (.entered (scenario.mark start .injected world.now))
  by_cases scheduled : scenario.kind = .scheduled
  · obtain ⟨later, moved, held, same⟩ :=
      checkEarly_pending scenario start begun prompt fits held (pending scheduled)
    refine ⟨later, moved, held, ?_⟩
    rw [follow, Procedure.alone_enter, scheduled]
    exact same
  · refine ⟨begun, by simp [begun, direct scheduled], held, ?_⟩
    rw [follow, Procedure.alone_enter]
    cases kind : scenario.kind with
    | scheduled => exact absurd kind scheduled
    | immediate | broadcast => rfl

end Scenario

end DeliveryCheck
