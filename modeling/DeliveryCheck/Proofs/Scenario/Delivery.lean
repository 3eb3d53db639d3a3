import DeliveryCheck.Scenario.Spec
import DeliveryCheck.Proofs.Time.Moment

namespace DeliveryCheck

namespace Timestamp

theorem after?_eq_some_iff {now due : Timestamp} {delay : Duration} :
    now.after? delay = some due ↔
      (delay.nanos ≤ longestDelay ∧ now.nanos + delay.nanos ≤ last.nanos) ∧
        due = ⟨now.nanos + delay.nanos⟩ := by
  unfold after?
  split <;> grind

end Timestamp

namespace Scenario

variable {scenario : Scenario} {now : Timestamp} {make : Identity → Record} {fault : Error}

/-- A delay can be added to the present: it is no longer than the longest delay and does not go past the
last instant of the calendar. -/
def HasDelivery (scenario : Scenario) (now : Timestamp) : Prop :=
  scenario.delay.nanos ≤ Timestamp.longestDelay ∧
    now.nanos + scenario.delay.nanos ≤ Timestamp.last.nanos

theorem record_eq (made : scenario.record? now = .ok make) (who : Identity) :
    make who =
      { id := who.id
        recipient := if scenario.kind = .broadcast then Uuid.everybody else who.recipient
        title := scenario.title
        body := scenario.body
        category := scenario.category
        priority := scenario.priority
        deliverAt :=
          if scenario.kind = .scheduled then some ⟨now.nanos + scenario.delay.nanos⟩ else none } := by
  cases kind : scenario.kind with
  | immediate | broadcast =>
    simp only [record?, kind] at made
    cases made
    simp [fill, Record.immediate, Record.broadcast]
  | scheduled =>
    simp only [record?, kind] at made
    split at made
    next due found =>
      cases made
      obtain ⟨_, rfl⟩ := Timestamp.after?_eq_some_iff.mp found
      simp [fill, Record.scheduled, Record.immediate]
    next => cases made

theorem record?_ok_iff :
    (∃ make, scenario.record? now = .ok make) ↔
      (scenario.kind = .scheduled → scenario.HasDelivery now) := by
  cases kind : scenario.kind with
  | immediate | broadcast => simp [record?, kind]
  | scheduled =>
    have found : (∃ due, now.after? scenario.delay = some due) ↔ scenario.HasDelivery now := by
      simp only [Timestamp.after?_eq_some_iff, exists_and_left, exists_eq, and_true, HasDelivery]
    rw [imp_iff_right rfl, ← found]
    cases after : now.after? scenario.delay <;> simp [record?, kind, after]

theorem record?_refused (refused : scenario.record? now = .error fault) :
    fault = .scenario (.spec scenario.name (.delayOutOfRange scenario.delay)) := by
  cases kind : scenario.kind with
  | immediate | broadcast =>
    simp only [record?, kind] at refused
    cases refused
  | scheduled =>
    simp only [record?, kind] at refused
    split at refused
    · cases refused
    · cases refused
      rfl

theorem refused_iff :
    (∃ fault, scenario.record? now = .error fault) ↔
      scenario.kind = .scheduled ∧ now.moment.after? scenario.delay.parts = none := by
  rw [← Timestamp.moment_after?, Option.map_eq_none_iff]
  cases kind : scenario.kind with
  | immediate | broadcast => simp [record?, kind]
  | scheduled => cases after : now.after? scenario.delay <;> simp [record?, kind, after]

/-- The record of a scenario at a given time, and when there is none. -/
structure DeliversExactly (scenario : Scenario) (now : Timestamp) : Prop where
  ok_iff : (∃ make, scenario.record? now = .ok make) ↔
    (scenario.kind = .scheduled → scenario.HasDelivery now)
  refused : ∀ fault, scenario.record? now = .error fault →
    fault = .scenario (.spec scenario.name (.delayOutOfRange scenario.delay))
  /-- Without a record, the delay cannot be added part by part on the calendar either. -/
  refused_iff : (∃ fault, scenario.record? now = .error fault) ↔
    scenario.kind = .scheduled ∧ now.moment.after? scenario.delay.parts = none
  /-- The delivery time is the same if the delay is added part by part on the calendar. -/
  due : ∀ make, scenario.record? now = .ok make → scenario.kind = .scheduled →
    ∀ who, ∃ due, (make who).deliverAt = some due ∧ due.nanos - now.nanos = scenario.delay.nanos ∧
      now.moment.after? scenario.delay.parts = some due.moment
  undated : ∀ make, scenario.record? now = .ok make → scenario.kind ≠ .scheduled →
    ∀ who, (make who).deliverAt = none
  addressed : ∀ make, scenario.record? now = .ok make → ∀ who, who.recipient ≠ Uuid.everybody →
    ((make who).recipient = Uuid.everybody ↔ scenario.kind = .broadcast)
  content : ∀ make, scenario.record? now = .ok make → ∀ who,
    (make who).title = scenario.title ∧ (make who).body = scenario.body ∧
      (make who).category = scenario.category ∧ (make who).priority = scenario.priority

theorem delivers_exactly (scenario : Scenario) (now : Timestamp) : scenario.DeliversExactly now where
  ok_iff := record?_ok_iff
  refused _ := record?_refused
  refused_iff := refused_iff
  due make made scheduled who := by
    have fits : scenario.HasDelivery now := record?_ok_iff.mp ⟨make, made⟩ scheduled
    have found : now.after? scenario.delay = some ⟨now.nanos + scenario.delay.nanos⟩ :=
      Timestamp.after?_eq_some_iff.mpr ⟨fits, rfl⟩
    refine ⟨⟨now.nanos + scenario.delay.nanos⟩, ?_, by dsimp only; omega, ?_⟩
    · rw [record_eq made, if_pos scheduled]
    · rw [← Timestamp.moment_after?, found, Option.map_some]
  undated make made unscheduled who := by rw [record_eq made, if_neg unscheduled]
  addressed make made who personal := by
    rw [record_eq made]
    by_cases kind : scenario.kind = .broadcast <;> simp [kind, personal]
  content make made who := by
    rw [record_eq made]
    exact ⟨rfl, rfl, rfl, rfl⟩

namespace Sample

def dated : Scenario := Spec.fill { name := "dated", kind := .scheduled } {}

/-- The last nanosecond of a day. -/
def midnight : Timestamp := ⟨86399999999999⟩

end Sample

open Sample in
theorem delivers_exactly_next_day :
    (∃ make, dated.record? midnight = .ok make ∧ ∀ who, ∃ due,
      (make who).deliverAt = some due ∧ due.moment = ⟨1, 4, 999999999⟩) ∧
    ∃ fault, dated.record? Timestamp.last = .error fault := by
  have early := delivers_exactly dated midnight
  have late := delivers_exactly dated Timestamp.last
  have fits : dated.HasDelivery midnight := by
    unfold HasDelivery
    decide
  have added : midnight.moment.after? dated.delay.parts = some ⟨1, 4, 999999999⟩ := by decide
  obtain ⟨make, made⟩ := early.ok_iff.mpr fun _ => fits
  refine ⟨⟨make, made, fun who => ?_⟩, late.refused_iff.mpr ⟨rfl, by decide⟩⟩
  obtain ⟨due, shown, _, moment⟩ := early.due make made rfl who
  rw [added] at moment
  exact ⟨due, shown, (Option.some.inj moment).symm⟩

end Scenario

end DeliveryCheck
