import DeliveryCheck.Poll.Basic
import DeliveryCheck.Scenario.Spec
import DeliveryCheck.Time.Clock

namespace DeliveryCheck

theorem checkWaits_eq_ok_iff {waits : List (String × Duration)} :
    checkWaits waits = .ok () ↔ ∀ wait ∈ waits, wait.2 ≤ longestWait := by
  induction waits with
  | nil => simp [checkWaits]
  | cons wait rest ih =>
    obtain ⟨field, length⟩ := wait
    rw [checkWaits, checkWait]
    by_cases long : longestWait < length
    · have above : ¬ length ≤ longestWait := Nat.not_le_of_lt long
      simp [long, above, Bind.bind, Except.bind]
    · have below : length ≤ longestWait := Nat.le_of_not_lt long
      simp [long, below, Bind.bind, Except.bind, ih]

structure PollingConfig.Checked (polling : PollingConfig) : Prop where
  interval_ne_zero : polling.intervalMillis ≠ 0
  timeout_ne_zero : polling.timeoutSecs ≠ 0
  scheduledTimeout_ne_zero : polling.scheduledTimeoutSecs ≠ 0

theorem PollingConfig.checked_iff {polling : PollingConfig} :
    polling.Checked ↔
      polling.intervalMillis ≠ 0 ∧ polling.timeoutSecs ≠ 0 ∧ polling.scheduledTimeoutSecs ≠ 0 :=
  ⟨fun ⟨interval, timeout, scheduled⟩ => ⟨interval, timeout, scheduled⟩,
    fun ⟨interval, timeout, scheduled⟩ => ⟨interval, timeout, scheduled⟩⟩

theorem Config.check_eq_ok_iff {config : Config} :
    config.check = .ok () ↔
      config.polling.Checked ∧ (∀ wait ∈ config.waits, wait.2 ≤ longestWait) ∧
        config.database.maxConnections ≠ 0 ∧ TableName.check config.database.table = .ok () := by
  rw [← checkWaits_eq_ok_iff, PollingConfig.checked_iff, check]
  by_cases interval : config.polling.intervalMillis = 0
  · simp [interval]
  by_cases timeouts : config.polling.timeoutSecs = 0 ∨ config.polling.scheduledTimeoutSecs = 0
  · rcases timeouts with timeout | timeout <;> simp [interval, timeout]
  · rw [not_or] at timeouts
    cases checkWaits config.waits with
    | error wait => simp [interval, timeouts]
    | ok =>
      by_cases connections : config.database.maxConnections = 0 <;>
        simp [interval, timeouts, connections]

theorem Config.polling_checked {config : Config} (valid : config.check = .ok ()) :
    config.polling.Checked := (check_eq_ok_iff.mp valid).1

namespace Scenario

/-- Every wait is at most a day, a poll goes on for at least a second and rests for at least a
millisecond, and only a scheduled scenario waits before it. -/
structure Bounded (scenario : Scenario) : Prop where
  second_le_timeout : second ≤ scenario.pace.timeout.nanos
  timeout_le : scenario.pace.timeout ≤ longestWait
  millisecond_le_interval : millisecond ≤ scenario.pace.interval.nanos
  interval_le : scenario.pace.interval ≤ longestWait
  delay_le : scenario.delay ≤ longestWait
  buffer_le : scenario.buffer ≤ longestWait
  delay_of_unscheduled : scenario.kind ≠ .scheduled → scenario.delay = .zero
  buffer_of_unscheduled : scenario.kind ≠ .scheduled → scenario.buffer = .zero

theorem wait_nanos_of_le {scenario : Scenario} (delay : scenario.delay ≤ longestWait)
    (buffer : scenario.buffer ≤ longestWait) :
    scenario.wait.nanos = scenario.delay.nanos + scenario.buffer.nanos ∧
      scenario.wait.nanos ≤ Instant.farAway := by
  have most : longestWait.nanos + longestWait.nanos ≤ Duration.limit := by decide
  have near : longestWait.nanos + longestWait.nanos ≤ Instant.farAway := by decide
  have within := Nat.add_le_add delay buffer
  have exact : scenario.wait.nanos = scenario.delay.nanos + scenario.buffer.nanos :=
    Nat.min_eq_left (Nat.le_trans within most)
  exact ⟨exact, Nat.le_trans (Nat.le_of_eq exact) (Nat.le_trans within near)⟩

theorem Bounded.wait_nanos {scenario : Scenario} (bounded : scenario.Bounded) :
    scenario.wait.nanos = scenario.delay.nanos + scenario.buffer.nanos :=
  (wait_nanos_of_le bounded.delay_le bounded.buffer_le).1

theorem Bounded.timeout_le_rests {scenario : Scenario} (bounded : scenario.Bounded) :
    scenario.pace.timeout.nanos ≤ scenario.pace.interval.nanos * (Poll.mostReads - 1) := by
  have many : longestWait.nanos ≤ millisecond * (Poll.mostReads - 1) := by decide
  apply Nat.le_trans bounded.timeout_le
  apply Nat.le_trans many
  exact Nat.mul_le_mul_right _ bounded.millisecond_le_interval

theorem Bounded.elapsed_nanos {scenario : Scenario} (bounded : scenario.Bounded)
    (start : Instant) {polled : Nat} (within : polled ≤ scenario.pace.timeout.nanos) :
    (start.elapsed (start + scenario.wait.nanos + polled)).nanos =
      scenario.delay.nanos + scenario.buffer.nanos + polled := by
  have delay : scenario.delay.nanos ≤ longestWait.nanos := bounded.delay_le
  have buffer : scenario.buffer.nanos ≤ longestWait.nanos := bounded.buffer_le
  have timeout : scenario.pace.timeout.nanos ≤ longestWait.nanos := bounded.timeout_le
  have most : longestWait.nanos + longestWait.nanos + longestWait.nanos ≤ Duration.limit := by decide
  rw [Instant.elapsed, Duration.nanos_clamp, bounded.wait_nanos]
  omega

end Scenario

theorem second_le_ofSeconds {count : UInt64} (positive : count ≠ 0) :
    second ≤ (Duration.ofSeconds count).nanos := by
  have bound : 0 < count.toNat := Nat.pos_of_ne_zero fun same => positive (UInt64.toNat.inj same)
  rw [Duration.nanos_ofSeconds]
  exact Nat.le_mul_of_pos_left second bound

theorem millisecond_le_ofMillis {count : UInt64} (positive : count ≠ 0) :
    millisecond ≤ (Duration.ofMillis count).nanos := by
  have bound : 0 < count.toNat := Nat.pos_of_ne_zero fun same => positive (UInt64.toNat.inj same)
  rw [Duration.nanos_ofMillis]
  exact Nat.le_mul_of_pos_left millisecond bound

namespace Spec

variable {spec : Spec} {polling : PollingConfig} {scenario : Scenario}

theorem resolve_ok (resolved : spec.resolve polling = .ok scenario) :
    scenario = spec.fill polling ∧ spec.hasZeroTiming = false ∧
      ∀ wait ∈ spec.waits polling, wait.2 ≤ longestWait := by
  unfold resolve at resolved
  split at resolved
  · cases resolved
  split at resolved
  · cases resolved
  split at resolved
  · cases resolved
  rename_i _ timed _
  split at resolved
  · cases resolved
  rename_i short
  cases resolved
  exact ⟨rfl, by simpa using timed, checkWaits_eq_ok_iff.mp short⟩

theorem timeout_positive (checked : polling.Checked) (timed : spec.hasZeroTiming = false) :
    second ≤ (spec.timeout polling).nanos := by
  apply second_le_ofSeconds
  simp only [hasZeroTiming, Bool.or_eq_false_iff, decide_eq_false_iff_not] at timed
  cases own : spec.timeoutSecs with
  | some count => simpa [own] using timed.2
  | none =>
    rw [Option.getD_none]
    split
    · exact checked.scheduledTimeout_ne_zero
    · exact checked.timeout_ne_zero

theorem interval_positive (checked : polling.Checked) (timed : spec.hasZeroTiming = false) :
    millisecond ≤ (spec.interval polling).nanos := by
  apply millisecond_le_ofMillis
  simp only [hasZeroTiming, Bool.or_eq_false_iff, decide_eq_false_iff_not] at timed
  cases own : spec.intervalMillis with
  | some count => simpa [own] using timed.1
  | none => exact checked.interval_ne_zero

theorem delay_of_unscheduled (unscheduled : (spec.fill polling).kind ≠ .scheduled) :
    (spec.fill polling).delay = .zero := by
  have other : spec.isScheduled = false := by simpa [fill, isScheduled] using unscheduled
  simp [fill, delay, other]

theorem resolve_bounded (checked : polling.Checked) (resolved : spec.resolve polling = .ok scenario) :
    scenario.Bounded := by
  obtain ⟨rfl, timed, short⟩ := resolve_ok resolved
  have unscheduled : (spec.fill polling).kind ≠ .scheduled → spec.isScheduled = false := by
    simp [fill, isScheduled]
  exact
    { second_le_timeout := timeout_positive checked timed
      timeout_le := short ("timeout_secs", spec.timeout polling) (by simp [waits])
      millisecond_le_interval := interval_positive checked timed
      interval_le := short ("interval_ms", spec.interval polling) (by simp [waits])
      delay_le := short ("delay_secs", spec.delay polling) (by simp [waits])
      buffer_le := short ("buffer_secs", spec.buffer polling) (by simp [waits])
      delay_of_unscheduled := delay_of_unscheduled
      buffer_of_unscheduled := fun other => by simp [fill, buffer, unscheduled other] }

end Spec

end DeliveryCheck
