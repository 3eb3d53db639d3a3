import DeliveryCheck.Proofs.Poll.Trail

namespace DeliveryCheck.Poll

variable {σ α : Type} {goal : Status → Bool}

theorem start_ok {pace : Pace} {now : Instant} {poll : Poll} (started : start pace now = .ok poll) :
    now.after? pace.timeout = some poll.deadline ∧
      poll = ⟨now, poll.deadline, pace.interval, none, 0⟩ := by
  unfold start at started
  split at started
  · rename_i deadline found
    cases started
    exact ⟨found, rfl⟩
  · cases started

theorem start_error {pace : Pace} {now : Instant} {fault : Error}
    (refused : start pace now = .error fault) :
    now.after? pace.timeout = none ∧ fault = .config (.timeoutOutOfRange pace.timeout) := by
  unfold start at refused
  split at refused
  · cases refused
  · rename_i missing
    cases refused
    exact ⟨missing, rfl⟩

/-- What the result of a poll says about its reads. -/
structure Account (goal : Status → Bool) (pace : Pace) (started : Instant) (reads : List Read)
    (result : Except Error PollOutcome) : Prop where
  unstarted : started.after? pace.timeout = none →
    reads = [] ∧ result = .error (.config (.timeoutOutOfRange pace.timeout))
  fails_iff : started.after? pace.timeout ≠ none →
    ((∃ fault, result = .error fault) ↔ ∃ read ∈ reads, ∃ fault, read.Failed fault)
  first_failure : started.after? pace.timeout ≠ none → ∀ fault, result = .error fault →
    ∃ earlier last, reads = earlier ++ [last] ∧ last.Failed fault ∧
      ∀ read ∈ earlier, ∀ fault, ¬ read.Failed fault
  satisfied_iff : ∀ outcome, result = .ok outcome →
    (outcome.satisfied ↔ ∃ last ∈ reads.getLast?, last.Satisfies goal)
  found : ∀ outcome, result = .ok outcome → outcome.satisfied →
    ∃ earlier last status, reads = earlier ++ [last] ∧ last.answer = .ok (some status) ∧
      goal status ∧ outcome.last = some status ∧ ∀ read ∈ earlier, ¬ read.Satisfies goal
  gave_up : ∀ outcome, result = .ok outcome → outcome.satisfied = false →
    (∀ read ∈ reads, ¬ read.Satisfies goal) ∧ pace.timeout ≤ outcome.elapsed
  observations_eq : ∀ outcome, result = .ok outcome → outcome.observations = reads.length
  last_eq : ∀ outcome, result = .ok outcome →
    outcome.last = (reads.filterMap Read.saw?).getLast?
  last_eq_none_iff : ∀ outcome, result = .ok outcome →
    (outcome.last = none ↔ ∀ read ∈ reads, read.answer = .ok none)

theorem Account.of_unstarted {pace : Pace} {started : Instant}
    (missing : started.after? pace.timeout = none) :
    Account goal pace started [] (.error (.config (.timeoutOutOfRange pace.timeout))) where
  unstarted _ := ⟨rfl, rfl⟩
  fails_iff found := absurd missing found
  first_failure found := absurd missing found
  satisfied_iff _ same := by cases same
  found _ same := by cases same
  gave_up _ same := by cases same
  observations_eq _ same := by cases same
  last_eq _ same := by cases same
  last_eq_none_iff _ same := by cases same

theorem Account.of_failure {pace : Pace} {started deadline : Instant} {earlier : List Read}
    {last : Read} {fault : Error} (found : started.after? pace.timeout = some deadline)
    (failed : last.answer = .error fault)
    (succeeded : ∀ read ∈ earlier, ∃ status, read.answer = .ok status ∧ status.any goal = false) :
    Account goal pace started (earlier ++ [last]) (.error fault) where
  unstarted missing := by simp [found] at missing
  fails_iff _ := ⟨fun _ => ⟨last, by simp, fault, failed⟩, fun _ => ⟨fault, rfl⟩⟩
  first_failure _ other same := by
    cases same
    refine ⟨earlier, last, rfl, failed, fun read member other failed => ?_⟩
    obtain ⟨status, answered, _⟩ := succeeded read member
    rw [Read.Failed, answered] at failed
    cases failed
  satisfied_iff _ same := by cases same
  found _ same := by cases same
  gave_up _ same := by cases same
  observations_eq _ same := by cases same
  last_eq _ same := by cases same
  last_eq_none_iff _ same := by cases same

theorem timeout_le_elapsed {pace : Pace} {started deadline now : Instant}
    (found : started.after? pace.timeout = some deadline) (late : deadline ≤ now) :
    pace.timeout ≤ started.elapsed now := by
  obtain ⟨_, rfl⟩ := Instant.after?_eq_some_iff.mp found
  exact Nat.le_min.mpr ⟨Nat.le_sub_of_add_le' late, pace.timeout.nanos_le⟩

theorem saw?_eq_none_iff {read : Read} {status : Option Status} (answered : read.answer = .ok status) :
    read.saw? = none ↔ read.answer = .ok none := by
  simp [Read.saw?, answered]

theorem Account.of_decision {pace : Pace} {started ended : Instant} {poll : Poll} {earlier : List Read}
    {last : Read} {status : Option Status} (begun : start pace started = .ok poll)
    (answered : last.answer = .ok status)
    (succeeded : ∀ read ∈ earlier, ∃ status, read.answer = .ok status ∧ status.any goal = false)
    (late : status.any goal = false → poll.deadline ≤ ended) :
    Account goal pace started (earlier ++ [last])
      (.ok ((poll.seeing (earlier ++ [last])).outcome (status.any goal) ended)) := by
  obtain ⟨found, fresh⟩ := start_ok begun
  have unsatisfied := not_satisfies_of_succeeded succeeded
  have decides : last.Satisfies goal ↔ status.any goal := Read.satisfies_iff_any answered
  have answers := answered_of_succeeded succeeded answered
  have seen : (poll.seeing (earlier ++ [last])).last =
      ((earlier ++ [last]).filterMap Read.saw?).getLast? := by
    rw [fresh, seeing, Option.or_none]
  constructor
  case unstarted => intro missing; simp [found] at missing
  case fails_iff =>
    intro _
    constructor
    · intro fails
      obtain ⟨_, same⟩ := fails
      cases same
    · intro fails
      obtain ⟨read, member, fault, failed⟩ := fails
      obtain ⟨status, answered⟩ := answers read member
      rw [Read.Failed, answered] at failed
      cases failed
  case first_failure => intro _ _ same; cases same
  case satisfied_iff =>
    intro _ same
    cases same
    simp [outcome, decides]
  case found =>
    intro _ same satisfied
    cases same
    obtain ⟨shown, answered, holds⟩ := decides.mpr satisfied
    refine ⟨earlier, last, shown, rfl, answered, holds, ?_, unsatisfied⟩
    have visible : last.saw? = some shown := by simp [Read.saw?, answered]
    simp [outcome, seen, visible]
  case gave_up =>
    intro _ same failed
    cases same
    refine ⟨fun read member => ?_, ?_⟩
    · rcases List.mem_append.mp member with member | member
      · exact unsatisfied read member
      · rw [List.mem_singleton.mp member, decides]
        simpa [outcome] using failed
    · rw [fresh]
      exact timeout_le_elapsed found (late failed)
  case observations_eq =>
    intro _ same
    cases same
    rw [outcome, fresh]
    simp [seeing]
  case last_eq =>
    intro _ same
    cases same
    exact seen
  case last_eq_none_iff =>
    intro _ same
    cases same
    change (poll.seeing _).last = none ↔ _
    rw [seen, List.getLast?_eq_none_iff, List.filterMap_eq_nil_iff]
    refine forall₂_congr fun read member => ?_
    obtain ⟨status, answered⟩ := answers read member
    exact saw?_eq_none_iff answered

theorem Trail.account {pace : Pace} {poll : Poll} {started now ended : Instant} {reads : List Read}
    {result : Except Error PollOutcome} (begun : start pace started = .ok poll)
    (trail : Trail goal mostReads poll now reads ended (some result))
    (few : reads.length < UInt32.size) : Account goal pace started reads result := by
  have counted : reads.length ≤ mostReads := by
    simp only [mostReads, UInt32.size] at few ⊢
    omega
  obtain ⟨earlier, last, rfl, _, succeeded, decided⟩ := trail.finished counted
  rcases decided with ⟨fault, failed, rfl⟩ | ⟨status, answered, rfl, late⟩
  · exact .of_failure (start_ok begun).1 failed succeeded
  · exact .of_decision begun answered succeeded late

theorem run_course {identity : Nat → Identity} {id : Uuid} {pace : Pace} {now : Instant}
    {next : Instant → Except Error PollOutcome → Procedure α} {story : List Event} {ended : Instant}
    {result : Option α} (course : (run goal id pace now next).Course identity now story ended result) :
    (∃ fault, start pace now = .error fault ∧
      (next now (.error fault)).Course identity now story ended result) ∨
    ∃ poll, start pace now = .ok poll ∧
      (observe goal id next mostReads poll).Course identity now story ended result := by
  unfold run at course
  cases begun : start pace now with
  | error fault =>
    simp only [begun] at course
    exact .inl ⟨fault, rfl, course⟩
  | ok poll =>
    simp only [begun] at course
    exact .inr ⟨poll, rfl, course⟩

/-- When the reads of a poll come and what the clock has to do with its end. A poll that starts makes a
read at once, and it ends with a read. -/
structure Clocked (pace : Pace) (started : Instant) (reads : List Read) (ended : Instant)
    (result : Except Error PollOutcome) : Prop where
  unstarted : started.after? pace.timeout = none → ended = started
  begins : started.after? pace.timeout ≠ none → reads.head?.map Read.began = some started
  lasts : ∀ read ∈ reads, read.began ≤ read.ended
  rests : reads.IsChain (Read.Precedes pace.interval (started + pace.timeout.nanos))
  ends : started.after? pace.timeout ≠ none → reads.getLast?.map Read.ended = some ended
  elapsed_eq : ∀ outcome, result = .ok outcome → outcome.elapsed = started.elapsed ended
  gave_up : ∀ outcome, result = .ok outcome → outcome.satisfied = false →
    started + pace.timeout.nanos ≤ ended

theorem Clocked.of_unstarted {pace : Pace} {started : Instant} {fault : Error}
    (missing : started.after? pace.timeout = none) : Clocked pace started [] started (.error fault) where
  unstarted _ := rfl
  begins found := absurd missing found
  lasts := by simp
  rests := .nil
  ends found := absurd missing found
  elapsed_eq _ same := by cases same
  gave_up _ same := by cases same

theorem Trail.clocked {left : Nat} {pace : Pace} {poll : Poll} {started ended : Instant}
    {reads : List Read} {result : Except Error PollOutcome} (begun : start pace started = .ok poll)
    (trail : Trail goal left poll started reads ended (some result)) :
    Clocked pace started reads ended result := by
  obtain ⟨found, fresh⟩ := start_ok begun
  obtain ⟨fits, due⟩ := Instant.after?_eq_some_iff.mp found
  have ends := trail.getLast?_ended
  have rests := trail.isChain (due ▸ fits)
  rw [due, show poll.interval = pace.interval by rw [fresh]] at rests
  constructor
  case unstarted => intro missing; simp [found] at missing
  case begins =>
    intro _
    cases reads with
    | nil => cases ends
    | cons first reads => exact congrArg some (trail.head_began first rfl)
  case lasts => exact trail.began_le_ended
  case rests => exact rests
  case ends => exact fun _ => ends
  case elapsed_eq =>
    intro outcome same
    cases same
    obtain ⟨_, _, _, _, _, _, _, rfl, _⟩ := trail.decided
    rw [fresh]
    rfl
  case gave_up =>
    intro outcome same failed
    cases same
    obtain ⟨_, _, _, _, _, _, _, rfl, late⟩ := trail.decided
    exact due ▸ late failed

theorem run_trail (setting : Setting σ) (goal : Status → Bool) (id : Uuid) (pace : Pace)
    (world : World σ) :
    ∃ reads ended result after,
      (run goal id pace world.now fun now result => .done (now, result)).alone setting none world =
        (some (ended, result), after) ∧
      after.now = ended ∧ after.history = (reads.map (Read.event id)).reverse ++ world.history ∧
      ((∃ fault, start pace world.now = .error fault ∧ reads = [] ∧ ended = world.now ∧
          result = .error fault) ∨
        ∃ poll, start pace world.now = .ok poll ∧
          Trail goal mostReads poll world.now reads ended (some result)) := by
  obtain ⟨story, course, told⟩ := Procedure.alone_course setting none
    (run goal id pace world.now fun now result => .done (now, result)) world
  obtain ⟨⟨ended, result⟩, finished⟩ := Procedure.alone_unlimited setting
    (run goal id pace world.now fun now result => .done (now, result)) world
  rw [finished] at course
  rcases run_course course with ⟨fault, refused, course⟩ | ⟨poll, begun, course⟩
  · obtain ⟨rfl, now, same⟩ := course.of_done
    cases same
    exact ⟨[], _, _, _, Prod.ext finished rfl, now, told, .inl ⟨fault, refused, rfl, rfl, rfl⟩⟩
  · rcases observe_course course with ⟨_, _, _, cut⟩ | ⟨reads, _, _, _, trail, rfl, onward⟩
    · cases cut
    obtain ⟨rfl, now, same⟩ := onward.of_done
    cases same
    rw [List.append_nil] at told
    exact ⟨reads, _, _, _, Prod.ext finished rfl, now, told, .inr ⟨poll, begun, trail⟩⟩

/-- Every poll, whatever the store answers and however long it takes, comes to an end that the clock and
its reads account for, as long as the reads can be counted. -/
theorem run_account (setting : Setting σ) (goal : Status → Bool) (id : Uuid) (pace : Pace)
    (world : World σ) :
    ∃ reads ended result after,
      (run goal id pace world.now fun now result => .done (now, result)).alone setting none world =
        (some (ended, result), after) ∧
      after.now = ended ∧ after.history = (reads.map (Read.event id)).reverse ++ world.history ∧
      Clocked pace world.now reads ended result ∧
      (reads.length < UInt32.size → Account goal pace world.now reads result) := by
  obtain ⟨reads, ended, result, after, finished, now, told, refused | begins⟩ :=
    run_trail setting goal id pace world
  · obtain ⟨fault, refused, rfl, rfl, rfl⟩ := refused
    obtain ⟨missing, rfl⟩ := start_error refused
    exact ⟨[], _, _, after, finished, now, told, .of_unstarted missing, fun _ => .of_unstarted missing⟩
  · obtain ⟨poll, begun, trail⟩ := begins
    exact ⟨reads, ended, result, after, finished, now, told, trail.clocked begun, trail.account begun⟩

namespace Sample

/-- A store that takes its time for a read and shows the record from the second one on. -/
def hesitantStore : Store Nat where
  insert record _ state := (⟨.zero, fun _ state => (.ok record.id, state)⟩, state)
  read _ _ state :=
    (⟨.ofMillis 400, fun _ state =>
      (.ok (if state = 0 then none else some ⟨false, state, none⟩), state + 1)⟩, state)
  close state := state

def hesitantSetting : Setting Nat :=
  ⟨hesitantStore, fun issued => ⟨.ofNat (issued + 1), .ofNat (issued + 1)⟩, fun now => ⟨now⟩⟩

def hesitantWorld : World Nat := ⟨7 * second, 0, 0, []⟩

def hesitantPace : Pace := ⟨.ofSeconds 1, .ofMillis 500⟩

def polledInVain : Option (Instant × Except Error PollOutcome) × World Nat :=
  (run Status.processed .nil hesitantPace hesitantWorld.now fun now result =>
    .done (now, result)).alone hesitantSetting none hesitantWorld

def outcomeInVain : PollOutcome := ⟨false, some ⟨false, 1, none⟩, 2, .ofMillis 1300⟩

end Sample

open Sample in
theorem run_account_in_vain :
    ∃ reads after, polledInVain = (some (8300 * millisecond, .ok outcomeInVain), after) ∧
      reads.length = 2 ∧
      Clocked hesitantPace hesitantWorld.now reads (8300 * millisecond) (.ok outcomeInVain) ∧
      Account Status.processed hesitantPace hesitantWorld.now reads (.ok outcomeInVain) := by
  obtain ⟨reads, ended, result, after, same, _, told, clocked, account⟩ :=
    run_account hesitantSetting Status.processed .nil hesitantPace hesitantWorld
  have ends : polledInVain.1 = some (8300 * millisecond, .ok outcomeInVain) := by decide +kernel
  have two : polledInVain.2.history.length = 2 := by decide +kernel
  rw [polledInVain, same] at ends two
  cases ends
  rw [told, hesitantWorld, List.append_nil, List.length_reverse, List.length_map] at two
  exact ⟨reads, after, same, two, clocked, account (by rw [two]; decide)⟩

end DeliveryCheck.Poll
