import DeliveryCheck.Config.Basic
import DeliveryCheck.Proofs.Poll.Schedule

namespace DeliveryCheck

namespace Procedure

variable {σ α : Type}

theorem alone_read_unlimited (setting : Setting σ) (id : Uuid) (world : World σ) :
    ∃ ended answer later, world.now ≤ ended ∧ later.now = ended ∧
      ∀ next : Instant → Except Error (Option Status) → Procedure α,
        (read id next).alone setting none world = (next ended answer).alone setting none later := by
  let begun := world.beginRead setting id
  let settled := begun.2.settle begun.1 (world.now.after begun.1.takes)
    (.read world.now (world.now.after begun.1.takes) id)
  exact ⟨_, settled.1, settled.2, world.now.le_after _, rfl, fun _ => rfl⟩

theorem alone_pause_unlimited (setting : Setting σ) (length : Duration)
    (next : Instant → Procedure α) (world : World σ) :
    (pause length next).alone setting none world =
      (next (world.now.after length)).alone setting none (world.moveTo (world.now.after length)) :=
  rfl

end Procedure

theorem Pace.rests_le_of_short {pace : Pace} (spaced : millisecond ≤ pace.interval.nanos)
    (short : pace.timeout ≤ longestWait) : pace.restsBeforeDeadline ≤ 86400000 := by
  have rests : 0 < pace.interval.nanos := Nat.lt_of_lt_of_le (by decide) spaced
  have day : longestWait.nanos = millisecond * 86400000 := by decide
  rw [restsBeforeDeadline, ceilDiv_le_iff_le_mul rests]
  calc pace.timeout.nanos
    _ ≤ longestWait.nanos := short
    _ = millisecond * 86400000 := day
    _ ≤ pace.interval.nanos * 86400000 := Nat.mul_le_mul_right _ spaced

namespace Poll

variable {σ α : Type} {goal : Status → Bool} {poll : Poll} {left : Nat}

theorem start_due {pace : Pace} {now : Instant} (begun : start pace now = .ok poll) :
    poll.deadline = now + pace.timeout.nanos ∧ poll.deadline < Instant.limit ∧
      poll.interval = pace.interval := by
  obtain ⟨found, fresh⟩ := start_ok begun
  obtain ⟨fits, due⟩ := Instant.after?_eq_some_iff.mp found
  exact ⟨due, due ▸ fits, by rw [fresh]⟩

theorem Trail.length_le_rests {pace : Pace} {now ended : Instant} {reads : List Read}
    {result : Option (Except Error PollOutcome)} (rests : 0 < pace.interval.nanos)
    (begun : start pace now = .ok poll) (trail : Trail goal left poll now reads ended result) :
    reads.length ≤ pace.restsBeforeDeadline + 1 := by
  obtain ⟨due, fits, paced⟩ := start_due begun
  have fit := trail.reads_fit (paced ▸ rests) fits
  rw [paced, due, Nat.add_sub_cancel_left] at fit
  have few : reads.length < pace.restsBeforeDeadline + 2 := by
    apply Nat.lt_of_mul_lt_mul_right (a := pace.interval.nanos)
    rw [Nat.add_mul]
    exact Nat.lt_of_lt_of_le fit (Nat.add_le_add_right (Pace.timeout_le_rests rests) _)
  exact Nat.le_of_lt_succ few

theorem observe_room (setting : Setting σ) (id : Uuid)
    (next : Instant → Except Error PollOutcome → Procedure α) (world : World σ)
    (rests : 0 < poll.interval.nanos) (fits : poll.deadline < Instant.limit)
    (enough : poll.deadline - world.now + 2 * poll.interval.nanos ≤
      (left + 1) * poll.interval.nanos) :
    (observe goal id next (left + 1) poll).alone setting none world =
      (observe goal id next left poll).alone setting none world := by
  -- After each rest there is room for one read less, and time for one read less.
  induction left generalizing poll world with
  | zero =>
    have twice : 2 * poll.interval.nanos ≤ 1 * poll.interval.nanos :=
      Nat.le_trans (Nat.le_add_left ..) enough
    omega
  | succ left ih =>
    obtain ⟨ended, answer, later, after, rfl, same⟩ :=
      Procedure.alone_read_unlimited (α := α) setting id world
    rw [observe, observe, same, same]
    rcases answer with fault | status
    · rfl
    · rcases stepped : poll.step goal status later.now with outcome | ⟨length, following⟩
      · simp only [stepped]
      · obtain ⟨_, early, rfl, rfl⟩ := step_rest stepped
        obtain ⟨inTime, rested⟩ := rest_nanos poll.interval early
        have onward : later.now.after (poll.untilNext later.now) =
            later.now + (poll.untilNext later.now).nanos :=
          Instant.after_of_lt (Nat.lt_of_le_of_lt inTime fits)
        simp only [stepped, Procedure.alone_pause_unlimited]
        refine ih _ rests fits (Nat.le_of_not_lt fun short => ?_)
        rw [onward] at short
        exact Nat.not_lt_of_le enough
          (reads_fit_succ after early inTime (rested.imp_left (congrArg (later.now + ·))) short)

theorem observe_enough {more : Nat} (setting : Setting σ) (id : Uuid)
    (next : Instant → Except Error PollOutcome → Procedure α) (world : World σ)
    (rests : 0 < poll.interval.nanos) (fits : poll.deadline < Instant.limit)
    (enough : poll.deadline - world.now + 2 * poll.interval.nanos ≤
      (left + 1) * poll.interval.nanos) (roomier : left ≤ more) :
    (observe goal id next more poll).alone setting none world =
      (observe goal id next left poll).alone setting none world := by
  induction more, roomier using Nat.le_induction with
  | base => rfl
  | succ more roomier ih =>
    have stillEnough := Nat.le_trans enough
      (Nat.mul_le_mul_right poll.interval.nanos (Nat.succ_le_succ roomier))
    rw [observe_room setting id next world rests fits stillEnough, ih]

theorem run_enough {pace : Pace} (setting : Setting σ) (id : Uuid)
    (next : Instant → Except Error PollOutcome → Procedure α) (world : World σ)
    (rests : 0 < pace.interval.nanos) (countable : pace.restsBeforeDeadline < mostReads)
    (begun : start pace world.now = .ok poll) (roomy : pace.restsBeforeDeadline < left) :
    (observe goal id next left poll).alone setting none world =
      (run goal id pace world.now next).alone setting none world := by
  obtain ⟨due, fits, paced⟩ := start_due begun
  have enough : poll.deadline - world.now + 2 * poll.interval.nanos ≤
      (pace.restsBeforeDeadline + 1 + 1) * poll.interval.nanos := by
    rw [paced, due, Nat.add_sub_cancel_left, Nat.add_assoc, Nat.add_mul]
    exact Nat.add_le_add_right (Pace.timeout_le_rests rests) _
  rw [run, begun]
  dsimp only
  rw [observe_enough setting id next world (paced ▸ rests) fits enough roomy,
    observe_enough setting id next world (paced ▸ rests) fits enough countable]

/-- A poll that rests for at least a millisecond and goes on for at most a day comes to an end that
its reads account for. They are too few to fill its counter, and a roomier one would change nothing. -/
theorem run_countable (setting : Setting σ) (goal : Status → Bool) (id : Uuid) (pace : Pace)
    (world : World σ) (spaced : millisecond ≤ pace.interval.nanos)
    (short : pace.timeout ≤ longestWait) :
    ∃ reads ended result after,
      (run goal id pace world.now fun now result => .done (now, result)).alone setting none world =
        (some (ended, result), after) ∧
      after.history = (reads.map (Read.event id)).reverse ++ world.history ∧
      reads.length ≤ pace.restsBeforeDeadline + 1 ∧ reads.length ≤ 86400001 ∧
      Account goal pace world.now reads result ∧
      ∀ poll, start pace world.now = .ok poll → ∀ room, pace.restsBeforeDeadline < room →
        (observe goal id (fun now result => .done (now, result)) room poll).alone setting none world =
          (some (ended, result), after) := by
  have rests : 0 < pace.interval.nanos := Nat.lt_of_lt_of_le (by decide) spaced
  have bound := Pace.rests_le_of_short spaced short
  have countable : pace.restsBeforeDeadline < mostReads := Nat.lt_of_le_of_lt bound (by decide)
  obtain ⟨reads, ended, result, after, finished, _, told, refused | begins⟩ :=
    run_trail setting goal id pace world
  · obtain ⟨fault, refused, rfl, _, rfl⟩ := refused
    obtain ⟨missing, rfl⟩ := start_error refused
    refine ⟨[], ended, _, after, finished, told, Nat.zero_le _, Nat.zero_le _,
      .of_unstarted missing, fun poll begun => ?_⟩
    rw [refused] at begun
    cases begun
  · obtain ⟨poll, begun, trail⟩ := begins
    have few := trail.length_le_rests rests begun
    have most := Nat.le_trans few (Nat.succ_le_succ bound)
    have account := trail.account begun (Nat.lt_of_le_of_lt most (by decide))
    refine ⟨reads, ended, result, after, finished, told, few, most, account, ?_⟩
    intro poll begun room roomy
    rw [run_enough setting id _ world rests countable begun roomy, finished]

namespace Sample

def slowStore (latency : Duration) : Store Unit where
  insert record _ state := (⟨.zero, fun _ state => (.ok record.id, state)⟩, state)
  read _ _ state := (⟨latency, fun _ state => (.ok none, state)⟩, state)
  close state := state

def slowSetting : Setting Unit := { setting with store := slowStore (.ofMillis 400) }

def shortestPace : Pace := ⟨.ofSeconds 1, .ofMillis 1⟩

def polledSlowly : Option (Instant × Except Error PollOutcome) × World Unit :=
  (run Status.processed .nil shortestPace world.now fun now result => .done (now, result)).alone
    slowSetting none world

end Sample

open Sample in
theorem run_countable_slow_reads :
    ∃ reads ended result after, polledSlowly = (some (ended, result), after) ∧ reads.length = 3 ∧
      Account Status.processed shortestPace world.now reads result ∧
      result = .ok ⟨false, none, 3, .ofMillis 1202⟩ := by
  obtain ⟨reads, ended, result, after, same, told, _, _, account, _⟩ :=
    run_countable slowSetting Status.processed .nil shortestPace world (by decide) (by decide)
  have three : polledSlowly.2.history.length = 3 := by cbv
  have gaveUp : polledSlowly.1.map Prod.snd = some (.ok ⟨false, none, 3, .ofMillis 1202⟩) := by cbv
  rw [polledSlowly, same] at three gaveUp
  rw [told] at three
  refine ⟨reads, ended, result, after, same, by simpa [world] using three, account, ?_⟩
  simpa using gaveUp

end Poll

end DeliveryCheck
