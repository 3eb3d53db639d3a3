import Mathlib
import DeliveryCheck.Proofs.Poll.Account
import DeliveryCheck.Proofs.Procedure.Prompt

namespace DeliveryCheck

theorem Duration.clamp_nanos (length : Duration) : Duration.clamp length.nanos = length :=
  eq_of_nanos_eq (Nat.min_eq_left length.nanos_le)

namespace Pace

variable {pace : Pace} {count : Nat}

/-- How far into a poll the read after `count` others comes. -/
def readAt (pace : Pace) (count : Nat) : Nat := min (count * pace.interval.nanos) pace.timeout.nanos

def restsBeforeDeadline (pace : Pace) : Nat := pace.timeout.nanos ⌈/⌉ pace.interval.nanos

@[simp] theorem readAt_zero : pace.readAt 0 = 0 := by simp [readAt]

theorem readAt_le : pace.readAt count ≤ pace.timeout.nanos := Nat.min_le_right ..

theorem lt_restsBeforeDeadline_iff (rests : 0 < pace.interval.nanos) :
    count < pace.restsBeforeDeadline ↔ count * pace.interval.nanos < pace.timeout.nanos := by
  rw [← Nat.not_le, restsBeforeDeadline, ceilDiv_le_iff_le_mul rests, Nat.mul_comm, Nat.not_le]

theorem timeout_le_rests (rests : 0 < pace.interval.nanos) :
    pace.timeout.nanos ≤ pace.restsBeforeDeadline * pace.interval.nanos := by
  rw [← Nat.not_lt, ← lt_restsBeforeDeadline_iff rests]
  exact Nat.lt_irrefl _

theorem readAt_restsBeforeDeadline (rests : 0 < pace.interval.nanos) :
    pace.readAt pace.restsBeforeDeadline = pace.timeout.nanos :=
  Nat.min_eq_right (timeout_le_rests rests)

theorem readAt_lt (rests : 0 < pace.interval.nanos) (before : count < pace.restsBeforeDeadline) :
    pace.readAt count < pace.timeout.nanos := by
  have early := (lt_restsBeforeDeadline_iff rests).mp before
  exact Nat.lt_of_le_of_lt (Nat.min_le_left ..) early

theorem readAt_succ (rests : 0 < pace.interval.nanos) (before : count < pace.restsBeforeDeadline) :
    pace.readAt count + min pace.interval.nanos (pace.timeout.nanos - pace.readAt count) =
      pace.readAt (count + 1) := by
  have early := (lt_restsBeforeDeadline_iff rests).mp before
  rw [readAt, readAt, Nat.min_eq_left (Nat.le_of_lt early), Nat.add_one_mul]
  omega

end Pace

namespace Poll

section

variable (pace : Pace) (start : Instant) (answer : Instant → Option Status)

/-- What the latest of the first `count` reads with a visible record saw. -/
def lastSeen : Nat → Option Status
  | 0 => none
  | count + 1 => (answer (start + pace.readAt count)).or (lastSeen count)

def onTime (count : Nat) : Poll :=
  ⟨start, start + pace.timeout.nanos, pace.interval, lastSeen pace start answer count, count⟩

def readsOnTime (count : Nat) : List Read :=
  (List.range count).map fun index =>
    ⟨start + pace.readAt index, start + pace.readAt index, .ok (answer (start + pace.readAt index))⟩

theorem readsOnTime_succ (count : Nat) :
    readsOnTime pace start answer (count + 1) =
      readsOnTime pace start answer count ++
        [⟨start + pace.readAt count, start + pace.readAt count,
          .ok (answer (start + pace.readAt count))⟩] := by
  rw [readsOnTime, List.range_succ, List.map_append]
  rfl

end

section

variable {σ α : Type} {pace : Pace} {start : Instant} {answer : Instant → Option Status}
  {goal : Status → Bool} {count : Nat}

theorem elapsed_readAt :
    start.elapsed (start + pace.readAt count) = .clamp (pace.readAt count) := by
  rw [Instant.elapsed, Nat.add_sub_cancel_left]

theorem count_onTime :
    (onTime pace start answer count).count (answer (start + pace.readAt count)) =
      onTime pace start answer (count + 1) := rfl

theorem step_onTime_rest (goal : Status → Bool) (rests : 0 < pace.interval.nanos)
    (before : count < pace.restsBeforeDeadline)
    (unsatisfied : (answer (start + pace.readAt count)).any goal = false) :
    ∃ length : Duration, start + pace.readAt count + length.nanos = start + pace.readAt (count + 1) ∧
      (onTime pace start answer count).step goal (answer (start + pace.readAt count))
          (start + pace.readAt count) =
        .rest length (onTime pace start answer (count + 1)) := by
  have early := Pace.readAt_lt rests before
  have left : start + pace.timeout.nanos - (start + pace.readAt count) =
      pace.timeout.nanos - pace.readAt count := Nat.add_sub_add_left ..
  have notLate : ¬ start + pace.timeout.nanos ≤ start + pace.readAt count := by
    rw [Nat.add_le_add_iff_left]
    exact Nat.not_le_of_lt early
  refine ⟨(onTime pace start answer count).untilNext (start + pace.readAt count), ?_, ?_⟩
  · have exact : min (min pace.interval.nanos (pace.timeout.nanos - pace.readAt count))
        Duration.limit = min pace.interval.nanos (pace.timeout.nanos - pace.readAt count) := by
      apply Nat.min_eq_left
      exact Nat.le_trans (Nat.min_le_left ..) pace.interval.nanos_le
    rw [untilNext, Duration.nanos_clamp, onTime, left, exact, Nat.add_assoc,
      Pace.readAt_succ rests before]
  · rw [step, count_onTime, unsatisfied, if_neg Bool.false_ne_true, onTime, if_neg notLate]

theorem step_onTime_over
    (ends : (answer (start + pace.readAt count)).any goal ∨ pace.readAt count = pace.timeout.nanos) :
    (onTime pace start answer count).step goal (answer (start + pace.readAt count))
        (start + pace.readAt count) =
      .over ((onTime pace start answer (count + 1)).outcome
        ((answer (start + pace.readAt count)).any goal) (start + pace.readAt count)) := by
  rw [step, count_onTime]
  cases satisfied : (answer (start + pace.readAt count)).any goal with
  | true => rfl
  | false =>
    have late : pace.readAt count = pace.timeout.nanos := by simpa [satisfied] using ends
    have passed : (onTime pace start answer count).deadline ≤ start + pace.readAt count := by
      rw [late]
      exact Nat.le_refl _
    rw [if_neg Bool.false_ne_true, if_pos passed]

variable {setting : Setting σ} {id : Uuid} {ready : σ → Prop} {world : World σ}
  (next : Instant → Except Error PollOutcome → Procedure α) (left : Nat)

theorem observe_prompt_over {poll : Poll} {outcome : PollOutcome}
    (prompt : setting.store.Prompt id ready answer) (fits : world.now < Instant.limit)
    (held : ready world.state)
    (stepped : poll.step goal (answer world.now) world.now = .over outcome) :
    ∃ later,
      world.Reaches later ready world.now
        [Read.event id ⟨world.now, world.now, .ok (answer world.now)⟩] ∧
      (observe goal id next (left + 1) poll).alone setting none world =
        (next world.now (.ok outcome)).alone setting none later := by
  unfold observe
  obtain ⟨later, reached, same⟩ := Procedure.alone_prompt_read setting prompt fits held
  refine ⟨later, reached, ?_⟩
  rw [same]
  simp only [stepped]

theorem observe_prompt_rest {poll following : Poll} {length : Duration}
    (prompt : setting.store.Prompt id ready answer)
    (fits : world.now + length.nanos < Instant.limit) (held : ready world.state)
    (stepped : poll.step goal (answer world.now) world.now = .rest length following) :
    ∃ later,
      world.Reaches later ready (world.now + length.nanos)
        [Read.event id ⟨world.now, world.now, .ok (answer world.now)⟩] ∧
      (observe goal id next (left + 1) poll).alone setting none world =
        (observe goal id next left following).alone setting none later := by
  have soon : world.now < Instant.limit := Nat.lt_of_le_of_lt (Nat.le_add_right ..) fits
  rw [observe]
  obtain ⟨later, reached, same⟩ := Procedure.alone_prompt_read setting prompt soon held
  refine ⟨later.moveTo (world.now + length.nanos), reached.moveTo _, ?_⟩
  rw [same]
  simp only [stepped]
  rw [← reached.now_eq] at fits ⊢
  exact Procedure.alone_pause setting fits

theorem observe_advances (prompt : setting.store.Prompt id ready answer)
    (fits : start + pace.timeout.nanos < Instant.limit) (rests : 0 < pace.interval.nanos)
    (begins : world.now = start) (held : ready world.state)
    (within : count ≤ pace.restsBeforeDeadline)
    (unsatisfied : ∀ index < count, (answer (start + pace.readAt index)).any goal = false) :
    ∃ later,
      world.Reaches later ready (start + pace.readAt count)
        ((readsOnTime pace start answer count).map (Read.event id)) ∧
      (observe goal id next (left + count) (onTime pace start answer 0)).alone setting none world =
        (observe goal id next left (onTime pace start answer count)).alone setting none later := by
  induction count generalizing left with
  | zero =>
    have here : world.Reaches world ready (start + pace.readAt 0) [] := by
      simpa [begins] using World.Reaches.refl held
    exact ⟨world, here, rfl⟩
  | succ count ih =>
    -- the reads so far leave one more to be counted, which is the next one
    obtain ⟨later, reached, same⟩ := ih (left + 1) (Nat.le_of_succ_le within)
      fun index before => unsatisfied index (Nat.lt_succ_of_lt before)
    obtain ⟨length, wakes, stepped⟩ := step_onTime_rest goal rests within
      (unsatisfied count (Nat.lt_succ_self count))
    rw [← reached.now_eq] at wakes stepped
    have soon : later.now + length.nanos < Instant.limit := by
      rw [wakes]
      exact Nat.lt_of_le_of_lt (Nat.add_le_add_left Pace.readAt_le start) fits
    obtain ⟨after, read, onward⟩ := observe_prompt_rest next left prompt soon
      reached.held stepped
    rw [wakes] at read
    refine ⟨after, ?_, ?_⟩
    · rw [readsOnTime_succ, List.map_append, ← reached.now_eq]
      exact reached.trans read
    · rw [← Nat.add_assoc, Nat.add_right_comm, same, onward]

theorem run_advances (world : World σ) (prompt : setting.store.Prompt id ready answer)
    (fits : world.now + pace.timeout.nanos < Instant.limit) (rests : 0 < pace.interval.nanos)
    (counted : left + count = mostReads) (held : ready world.state)
    (within : count ≤ pace.restsBeforeDeadline)
    (unsatisfied : ∀ index < count, (answer (world.now + pace.readAt index)).any goal = false) :
    ∃ later,
      world.Reaches later ready (world.now + pace.readAt count)
        ((readsOnTime pace world.now answer count).map (Read.event id)) ∧
      (run goal id pace world.now next).alone setting none world =
        (observe goal id next left (onTime pace world.now answer count)).alone setting none later := by
  have deadline : world.now.after? pace.timeout = some (world.now + pace.timeout.nanos) :=
    Instant.after?_eq_some_iff.mpr ⟨fits, rfl⟩
  have begun : start pace world.now = .ok (onTime pace world.now answer 0) := by
    rw [start, deadline]
    rfl
  obtain ⟨later, reached, same⟩ :=
    observe_advances next left prompt fits rests rfl held within unsatisfied
  refine ⟨later, reached, ?_⟩
  rw [run, begun, ← same, counted]

theorem readAt_lt_limit {now : Instant} (fits : now + pace.timeout.nanos < Instant.limit) :
    now + pace.readAt count < Instant.limit :=
  Nat.lt_of_le_of_lt (Nat.add_le_add_left Pace.readAt_le now) fits

theorem run_ends (world : World σ) (prompt : setting.store.Prompt id ready answer)
    (fits : world.now + pace.timeout.nanos < Instant.limit) (rests : 0 < pace.interval.nanos)
    (countable : count < mostReads) (held : ready world.state)
    (within : count ≤ pace.restsBeforeDeadline)
    (unsatisfied : ∀ index < count, (answer (world.now + pace.readAt index)).any goal = false)
    (ends : (answer (world.now + pace.readAt count)).any goal ∨
      pace.readAt count = pace.timeout.nanos) :
    ∃ later,
      world.Reaches later ready (world.now + pace.readAt count)
        ((readsOnTime pace world.now answer (count + 1)).map (Read.event id)) ∧
      (run goal id pace world.now next).alone setting none world =
        (next (world.now + pace.readAt count)
          (.ok ((onTime pace world.now answer (count + 1)).outcome
            ((answer (world.now + pace.readAt count)).any goal)
            (world.now + pace.readAt count)))).alone setting none later := by
  obtain ⟨left, enough⟩ := Nat.exists_eq_add_of_lt countable
  have counted : left + 1 + count = mostReads := by omega
  obtain ⟨later, reached, same⟩ :=
    run_advances next (left + 1) world prompt fits rests counted held within unsatisfied
  have stepped := step_onTime_over ends
  have soon : later.now < Instant.limit := by
    rw [reached.now_eq]
    exact readAt_lt_limit fits
  rw [← reached.now_eq] at stepped
  obtain ⟨after, read, onward⟩ := observe_prompt_over next left prompt soon reached.held stepped
  rw [reached.now_eq] at read onward
  refine ⟨after, ?_, same.trans onward⟩
  rw [readsOnTime_succ, List.map_append]
  exact reached.trans read

theorem run_overruns (world : World σ) (prompt : setting.store.Prompt id ready answer)
    (fits : world.now + pace.timeout.nanos < Instant.limit) (rests : 0 < pace.interval.nanos)
    (held : ready world.state) (within : mostReads ≤ pace.restsBeforeDeadline)
    (unsatisfied : ∀ index < mostReads, (answer (world.now + pace.readAt index)).any goal = false) :
    ∃ later,
      world.Reaches later ready (world.now + pace.readAt mostReads)
        ((readsOnTime pace world.now answer (mostReads + 1)).map (Read.event id)) ∧
      (run goal id pace world.now next).alone setting none world =
        (next (world.now + pace.readAt mostReads) (.error uncountable)).alone setting none later := by
  obtain ⟨later, reached, same⟩ :=
    run_advances next 0 world prompt fits rests (Nat.zero_add _) held within unsatisfied
  have soon : later.now < Instant.limit := by
    rw [reached.now_eq]
    exact readAt_lt_limit fits
  rw [observe] at same
  obtain ⟨after, read, onward⟩ := Procedure.alone_prompt_read setting prompt soon reached.held
  rw [reached.now_eq] at read onward
  refine ⟨after, ?_, same.trans onward⟩
  rw [readsOnTime_succ, List.map_append]
  exact reached.trans read

/-- When the reads of a poll come, and what it returns, if a read at an instant answers what it is
given for that instant. The read that decides must be one that can be counted. -/
structure Timetable (goal : Status → Bool) (pace : Pace) (start : Instant)
    (answer : Instant → Option Status) (reads : List Read) (result : Except Error PollOutcome) :
    Prop where
  read_at : ∀ index (read : Read), reads[index]? = some read →
    read = ⟨start + pace.readAt index, start + pace.readAt index,
      .ok (answer (start + pace.readAt index))⟩
  satisfied : ∀ least ≤ pace.restsBeforeDeadline, least + 1 < UInt32.size → ∀ status,
    answer (start + pace.readAt least) = some status → goal status →
    (∀ index < least, (answer (start + pace.readAt index)).any goal = false) →
    reads.length = least + 1 ∧
      result = .ok ⟨true, some status, least + 1, .clamp (pace.readAt least)⟩
  unsatisfied : pace.restsBeforeDeadline + 1 < UInt32.size →
    (∀ index ≤ pace.restsBeforeDeadline, (answer (start + pace.readAt index)).any goal = false) →
    reads.length = pace.restsBeforeDeadline + 1 ∧
      (∃ last ∈ reads.getLast?, last.began = start + pace.timeout.nanos) ∧
      ∃ last, result = .ok ⟨false, last, pace.restsBeforeDeadline + 1, pace.timeout⟩

theorem length_readsOnTime : (readsOnTime pace start answer count).length = count := by
  rw [readsOnTime, List.length_map, List.length_range]

theorem readsOnTime_getElem? (index : Nat) (read : Read)
    (found : (readsOnTime pace start answer count)[index]? = some read) :
    read = ⟨start + pace.readAt index, start + pace.readAt index,
      .ok (answer (start + pace.readAt index))⟩ := by
  rw [readsOnTime, List.getElem?_map, Option.map_eq_some_iff] at found
  obtain ⟨other, listed, rfl⟩ := found
  rw [(List.getElem?_eq_some_iff.mp listed).2.symm, List.getElem_range]

theorem Timetable.of_least {least made : Nat} {status : Status} {result : Except Error PollOutcome}
    (within : least ≤ pace.restsBeforeDeadline)
    (shown : answer (start + pace.readAt least) = some status) (satisfies : goal status)
    (earlier : ∀ index < least, (answer (start + pace.readAt index)).any goal = false)
    (decided : least + 1 < UInt32.size → made = least + 1 ∧
      result = .ok ⟨true, some status, least + 1, .clamp (pace.readAt least)⟩) :
    Timetable goal pace start answer (readsOnTime pace start answer made) result where
  read_at := readsOnTime_getElem?
  satisfied other _ countable _ shownToo satisfiesToo earlierToo := by
    obtain before | rfl | after := Nat.lt_trichotomy other least
    · have silent := earlier other before
      simp [shownToo, satisfiesToo] at silent
    · rw [shown] at shownToo
      cases shownToo
      rw [length_readsOnTime]
      exact decided countable
    · have silent := earlierToo least after
      simp [shown, satisfies] at silent
  unsatisfied _ silent := by
    have unseen := silent least within
    simp [shown, satisfies] at unseen

theorem Timetable.of_none {made : Nat} {result : Except Error PollOutcome}
    (silent : ∀ index ≤ pace.restsBeforeDeadline,
      (answer (start + pace.readAt index)).any goal = false)
    (rests : 0 < pace.interval.nanos)
    (decided : pace.restsBeforeDeadline + 1 < UInt32.size → made = pace.restsBeforeDeadline + 1 ∧
      ∃ last, result = .ok ⟨false, last, pace.restsBeforeDeadline + 1, pace.timeout⟩) :
    Timetable goal pace start answer (readsOnTime pace start answer made) result where
  read_at := readsOnTime_getElem?
  satisfied least within _ status shown satisfies _ := by
    have unseen := silent least within
    simp [shown, satisfies] at unseen
  unsatisfied countable _ := by
    obtain ⟨rfl, returns⟩ := decided countable
    refine ⟨length_readsOnTime, ?_, returns⟩
    rw [readsOnTime_succ, List.getLast?_append, Pace.readAt_restsBeforeDeadline rests]
    exact ⟨_, rfl, rfl⟩

theorem outcome_onTime (satisfied : Bool) :
    (onTime pace start answer (count + 1)).outcome satisfied (start + pace.readAt count) =
      ⟨satisfied, lastSeen pace start answer (count + 1), count + 1, .clamp (pace.readAt count)⟩ := by
  rw [outcome, onTime, elapsed_readAt]

theorem run_decided (world : World σ) (prompt : setting.store.Prompt id ready answer)
    (fits : world.now + pace.timeout.nanos < Instant.limit) (rests : 0 < pace.interval.nanos)
    (held : ready world.state) (within : count ≤ pace.restsBeforeDeadline)
    (unsatisfied : ∀ index < count, (answer (world.now + pace.readAt index)).any goal = false)
    (ends : (answer (world.now + pace.readAt count)).any goal ∨
      pace.readAt count = pace.timeout.nanos) :
    ∃ made ended result after,
      (run goal id pace world.now fun now result => .done (now, result)).alone setting none world =
        (some (ended, result), after) ∧
      after.history =
        ((readsOnTime pace world.now answer made).map (Read.event id)).reverse ++ world.history ∧
      (count + 1 < UInt32.size → made = count + 1 ∧
        result = .ok ⟨(answer (world.now + pace.readAt count)).any goal,
          lastSeen pace world.now answer (count + 1), count + 1, .clamp (pace.readAt count)⟩) := by
  by_cases countable : count < mostReads
  · obtain ⟨after, reached, same⟩ := run_ends (fun now result => .done (now, result)) world prompt fits
      rests countable held within unsatisfied ends
    rw [outcome_onTime] at same
    exact ⟨_, _, _, after, same, reached.told, fun _ => ⟨rfl, rfl⟩⟩
  · have most := Nat.le_of_not_lt countable
    obtain ⟨after, reached, same⟩ := run_overruns (fun now result => .done (now, result)) world prompt
      fits rests held (Nat.le_trans most within)
      fun index before => unsatisfied index (Nat.lt_of_lt_of_le before most)
    refine ⟨_, _, _, after, same, reached.told, fun few => ?_⟩
    exact absurd (Nat.succ_le_succ most) (Nat.not_le_of_lt few)

/-- Against a store that answers at once, the reads of a poll follow its timetable and decide what it
returns. -/
theorem run_keeps_timetable (setting : Setting σ) (goal : Status → Bool) (id : Uuid) (pace : Pace)
    (answer : Instant → Option Status) (ready : σ → Prop) (world : World σ)
    (prompt : setting.store.Prompt id ready answer)
    (fits : world.now + pace.timeout.nanos < Instant.limit) (rests : 0 < pace.interval.nanos)
    (held : ready world.state) :
    ∃ reads ended result after,
      (run goal id pace world.now fun now result => .done (now, result)).alone setting none world =
        (some (ended, result), after) ∧
      after.history = (reads.map (Read.event id)).reverse ++ world.history ∧
      Timetable goal pace world.now answer reads result := by
  by_cases found : ∃ least, least ≤ pace.restsBeforeDeadline ∧
      (answer (world.now + pace.readAt least)).any goal
  · obtain ⟨within, satisfied⟩ := Nat.find_spec found
    have earlier : ∀ index < Nat.find found,
        (answer (world.now + pace.readAt index)).any goal = false := by
      intro index before
      have unseen := Nat.find_min found before
      rw [not_and, Bool.not_eq_true] at unseen
      exact unseen (Nat.le_trans (Nat.le_of_lt before) within)
    obtain ⟨status, shown, holds⟩ := (Option.any_eq_true goal _).mp satisfied
    obtain ⟨made, ended, result, after, same, told, decided⟩ :=
      run_decided world prompt fits rests held within earlier (.inl satisfied)
    refine ⟨_, ended, result, after, same, told,
      .of_least within shown holds earlier fun countable => ?_⟩
    obtain ⟨rfl, rfl⟩ := decided countable
    rw [satisfied, lastSeen, shown, Option.some_or]
    exact ⟨rfl, rfl⟩
  · have silent : ∀ index ≤ pace.restsBeforeDeadline,
        (answer (world.now + pace.readAt index)).any goal = false := by
      intro index within
      rw [← Bool.not_eq_true]
      exact fun satisfied => found ⟨index, within, satisfied⟩
    have deadline := Pace.readAt_restsBeforeDeadline rests
    obtain ⟨made, ended, result, after, same, told, decided⟩ :=
      run_decided world prompt fits rests held (Nat.le_refl _)
        (fun index before => silent index (Nat.le_of_lt before)) (.inr deadline)
    refine ⟨_, ended, result, after, same, told,
      .of_none silent rests fun countable => ?_⟩
    obtain ⟨rfl, rfl⟩ := decided countable
    rw [silent _ (Nat.le_refl _), deadline, Duration.clamp_nanos]
    exact ⟨rfl, _, rfl⟩

end

namespace Sample

def clockStore (answer : Instant → Option Status) : Store Unit where
  insert record _ state := (⟨.zero, fun _ state => (.ok record.id, state)⟩, state)
  read _ _ state := (⟨.zero, fun now state => (.ok (answer now), state)⟩, state)
  close state := state

theorem clockStore_prompt (answer : Instant → Option Status) (id : Uuid) :
    (clockStore answer).Prompt id (fun _ => True) answer where
  takes _ _ _ := rfl
  answers _ _ _ := rfl
  stays _ _ _ := trivial

/-- Visible from the second read on, and processed just when 1.2 seconds have passed. -/
def answer (now : Instant) : Option Status :=
  if now < 500 * millisecond then none else some ⟨1200 * millisecond ≤ now, 0, none⟩

def pace : Pace := ⟨.ofMillis 1200, .ofMillis 500⟩

def setting : Setting Unit :=
  ⟨clockStore answer, fun issued => ⟨.ofNat (issued + 1), .ofNat (issued + 1)⟩, fun now => ⟨now⟩⟩

def world : World Unit := ⟨0, (), 0, []⟩

def polled : Option (Instant × Except Error PollOutcome) × World Unit :=
  (run Status.processed .nil pace world.now fun now result => .done (now, result)).alone setting none
    world

end Sample

open Sample in
theorem run_keeps_timetable_at_deadline :
    ∃ reads ended result after, polled = (some (ended, result), after) ∧ reads.length = 4 ∧
      Timetable Status.processed pace world.now answer reads result ∧
      result = .ok ⟨true, some ⟨true, 0, none⟩, 4, .clamp (1200 * millisecond)⟩ := by
  obtain ⟨reads, ended, result, after, same, _, table⟩ :=
    run_keeps_timetable setting Status.processed .nil pace answer (fun _ => True) world
      (clockStore_prompt answer .nil) (by decide) (by decide) trivial
  have within : 2 < pace.restsBeforeDeadline :=
    (Pace.lt_restsBeforeDeadline_iff (by decide)).mpr (by decide)
  have due : pace.readAt 3 = 1200 * millisecond := by decide
  have shown : answer (world.now + pace.readAt 3) = some ⟨true, 0, none⟩ := by
    simp [due, answer, world, millisecond]
  have decided := table.satisfied 3 within (by decide) ⟨true, 0, none⟩ shown rfl (by decide)
  rw [due] at decided
  exact ⟨reads, ended, result, after, same, decided.1, table, decided.2⟩

end Poll

end DeliveryCheck
