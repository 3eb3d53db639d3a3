import DeliveryCheck.Scenario.Check
import DeliveryCheck.Proofs.Poll.Account
import DeliveryCheck.Proofs.Scenario.Timing

namespace DeliveryCheck

structure Polling where
  began : Instant
  reads : List Read
  result : Except Error PollOutcome

/-- The reads of a check, phase by phase. -/
structure Watch where
  early : Option Read := none
  polling : Option Polling := none
  confirming : Option Read := none

namespace Watch

def late (watch : Watch) : List Read :=
  watch.polling.elim [] Polling.reads ++ watch.confirming.toList

def reads (watch : Watch) : List Read := watch.early.toList ++ watch.late

end Watch

namespace Scenario

variable (scenario : Scenario)

/-- The reads from the start of the poll on, what the poll returns, and the verdict or the error that
ends the check. -/
inductive Awaited (now : Instant) : List Read → Except Error PollOutcome → Option Read →
    Instant → Except Error Outcome → Prop where
  | refused {fault} (refused : Poll.start scenario.pace now = .error fault) :
    Awaited now [] (.error fault) none now (.error fault)
  | failed {poll reads ended fault} (begun : Poll.start scenario.pace now = .ok poll)
    (trail : Poll.Trail Status.processed Poll.mostReads poll now reads ended
      (some (.error fault))) :
    Awaited now reads (.error fault) none ended (.error fault)
  | timedOut {poll reads ended outcome} (begun : Poll.start scenario.pace now = .ok poll)
    (trail : Poll.Trail Status.processed Poll.mostReads poll now reads ended (some (.ok outcome)))
    (unsatisfied : outcome.satisfied = false) :
    Awaited now reads (.ok outcome) none ended
      (.ok (.failed (.timedOut outcome.last outcome.elapsed outcome.observations)))
  | confirmed {poll reads finish outcome ended answer}
    (begun : Poll.start scenario.pace now = .ok poll)
    (trail : Poll.Trail Status.processed Poll.mostReads poll now reads finish (some (.ok outcome)))
    (satisfied : outcome.satisfied) (later : finish ≤ ended) :
    Awaited now reads (.ok outcome) (some ⟨finish, ended, answer⟩) ended (answer.map confirmed)

/-- The reads after an insertion, and the verdict or the error that ends the check. -/
inductive Watched (inserted : Instant) : Watch → Instant → Except Error Outcome → Prop where
  | direct {reads result confirming ended verdict} (unscheduled : scenario.kind ≠ .scheduled)
    (awaited : scenario.Awaited inserted reads result confirming ended verdict) :
    Watched inserted ⟨none, some ⟨inserted, reads, result⟩, confirming⟩ ended verdict
  | failed {ended fault} (scheduled : scenario.kind = .scheduled) (later : inserted ≤ ended) :
    Watched inserted ⟨some ⟨inserted, ended, .error fault⟩, none, none⟩ ended (.error fault)
  | hidden {ended} (scheduled : scenario.kind = .scheduled) (later : inserted ≤ ended) :
    Watched inserted ⟨some ⟨inserted, ended, .ok none⟩, none, none⟩ ended
      (.ok (.failed .notVisible))
  | early {ended status} (scheduled : scenario.kind = .scheduled) (later : inserted ≤ ended)
    (processed : status.processed) :
    Watched inserted ⟨some ⟨inserted, ended, .ok (some status)⟩, none, none⟩ ended
      (.ok (.failed (.processedEarly status)))
  | pending {seen status reads result confirming ended verdict}
    (scheduled : scenario.kind = .scheduled) (later : inserted ≤ seen)
    (pending : status.processed = false)
    (awaited : scenario.Awaited (seen.after scenario.wait) reads result confirming ended verdict) :
    Watched inserted
      ⟨some ⟨inserted, seen, .ok (some status)⟩, some ⟨seen.after scenario.wait, reads, result⟩,
        confirming⟩ ended verdict

theorem filter_isCall_events (id : Uuid) (reads : List Read) :
    (reads.map (Read.event id)).filter Event.isCall = reads.map (Read.event id) := by
  simp [Read.event, Event.isCall]

section

variable {scenario} {start now ended : Instant} {id : Uuid} {identity : Nat → Identity}
  {story : List Event} {answer : Except Error ScenarioResult} {outcome : Outcome}

theorem resolve_goes
    (course : (scenario.resolve start id outcome now).Course identity now story ended (some answer)) :
    story.filter Event.isCall = [] ∧ ended = now ∧
      answer = .ok (scenario.result start id outcome ended) := by
  cases course with
  | enter course =>
    obtain ⟨rfl, rfl, rfl⟩ := course.of_done
    exact ⟨rfl, rfl, rfl⟩

theorem confirm_goes
    (course : (scenario.confirm start id).Course identity now story ended (some answer)) :
    ∃ status, now ≤ ended ∧
      story.filter Event.isCall = [Read.event id ⟨now, ended, status⟩] ∧
      answer = (status.map confirmed).map (scenario.result start id · ended) := by
  cases course with
  | @read _ _ _ instant status _ _ _ later course =>
    rw [List.filter_cons_of_pos rfl]
    cases status with
    | error fault =>
      obtain ⟨rfl, rfl, rfl⟩ := course.of_done
      exact ⟨.error fault, later, rfl, rfl⟩
    | ok status =>
      obtain ⟨calls, rfl, rfl⟩ := resolve_goes course
      exact ⟨.ok status, later, by rw [calls, Read.event], rfl⟩

theorem await_goes
    (course : (scenario.await start id now).Course identity now story ended (some answer)) :
    ∃ reads result confirming verdict, scenario.Awaited now reads result confirming ended verdict ∧
      story.filter Event.isCall = (reads ++ confirming.toList).map (Read.event id) ∧
      answer = verdict.map (scenario.result start id · ended) := by
  cases course with
  | enter course =>
    rw [List.filter_cons_of_neg (by simp [Event.isCall])]
    rcases Poll.run_course course with ⟨fault, refused, course⟩ | ⟨poll, begun, course⟩
    · obtain ⟨rfl, rfl, rfl⟩ := course.of_done
      exact ⟨_, _, _, _, .refused refused, rfl, rfl⟩
    rcases Poll.observe_course course with
      ⟨_, _, _, cut⟩ | ⟨reads, finish, polled, rest, trail, rfl, course⟩
    · cases cut
    rw [List.filter_append, filter_isCall_events]
    cases polled with
    | error fault =>
      obtain ⟨rfl, rfl, rfl⟩ := course.of_done
      exact ⟨_, _, _, _, .failed begun trail, by simp, rfl⟩
    | ok polled =>
      simp only [settle] at course
      split at course
      next satisfied =>
        obtain ⟨status, later, calls, same⟩ := confirm_goes course
        refine ⟨_, _, _, _, .confirmed begun trail satisfied later, ?_, same⟩
        rw [calls, List.map_append]
        rfl
      next unsatisfied =>
        obtain ⟨calls, rfl, same⟩ := resolve_goes course
        refine ⟨_, _, _, _, .timedOut begun trail (by simpa using unsatisfied), ?_, same⟩
        rw [calls, List.append_nil]
        simp

theorem checkEarly_goes (scheduled : scenario.kind = .scheduled)
    (course : (scenario.checkEarly start id).Course identity now story ended (some answer)) :
    ∃ watch verdict, scenario.Watched now watch ended verdict ∧
      story.filter Event.isCall = watch.reads.map (Read.event id) ∧
      answer = verdict.map (scenario.result start id · ended) := by
  cases course with
  | @read _ _ _ instant status _ _ _ later course =>
    rw [List.filter_cons_of_pos rfl]
    rcases status with fault | (_ | status)
    · obtain ⟨rfl, rfl, rfl⟩ := course.of_done
      exact ⟨_, _, .failed scheduled later, rfl, rfl⟩
    · obtain ⟨calls, rfl, same⟩ := resolve_goes course
      exact ⟨_, _, .hidden scheduled later, by rw [calls]; rfl, same⟩
    · simp only at course
      split at course
      next processed =>
        obtain ⟨calls, rfl, same⟩ := resolve_goes course
        exact ⟨_, _, .early scheduled later processed, by rw [calls]; rfl, same⟩
      next unprocessed =>
        cases course with
        | enter course =>
          cases course with
          | pause course =>
            obtain ⟨reads, result, confirming, verdict, awaited, calls, same⟩ := await_goes course
            refine ⟨_, _, .pending scheduled later (by simpa using unprocessed) awaited, ?_, same⟩
            rw [List.filter_cons_of_neg (by simp [Event.isCall]), calls]
            rfl

theorem follow_goes
    (course : (scenario.follow start id now).Course identity now story ended (some answer)) :
    ∃ watch verdict, scenario.Watched now watch ended verdict ∧
      story.filter Event.isCall = watch.reads.map (Read.event id) ∧
      answer = verdict.map (scenario.result start id · ended) := by
  cases course with
  | @enter _ _ _ rest _ _ course =>
    rw [List.filter_cons_of_neg (by simp [Event.isCall])]
    -- Only a scheduled check reads early; the other two kinds go on in the same way.
    by_cases scheduled : scenario.kind = .scheduled
    · rw [scheduled] at course
      exact checkEarly_goes scheduled course
    · have direct : (scenario.await start id now).Course identity now rest ended (some answer) := by
        cases kind : scenario.kind with
        | scheduled => exact absurd kind scheduled
        | immediate | broadcast => rw [kind] at course; exact course
      obtain ⟨reads, result, confirming, verdict, awaited, calls, same⟩ := await_goes direct
      exact ⟨_, _, .direct scheduled awaited, calls, same⟩

theorem check_goes {wall : Timestamp}
    (course : (scenario.check start wall).Course identity now story ended (some answer)) :
    (∃ fault, scenario.record? wall = .error fault ∧ story = [] ∧ answer = .error fault) ∨
    ∃ make instant number, scenario.record? wall = .ok make ∧ now ≤ instant ∧
      ((∃ fault, story = [.inserted now instant number (make (identity number)) (.error fault)] ∧
          answer = .error fault) ∨
        ∃ id watch verdict, scenario.Watched instant watch ended verdict ∧
          story.filter Event.isCall =
            .inserted now instant number (make (identity number)) (.ok id) ::
              watch.reads.map (Read.event id) ∧
          answer = verdict.map (scenario.result start id · ended)) := by
  unfold check at course
  cases made : scenario.record? wall with
  | error fault =>
    rw [made] at course
    obtain ⟨rfl, _, rfl⟩ := course.of_done
    exact .inl ⟨fault, rfl, rfl, rfl⟩
  | ok make =>
    rw [made] at course
    cases course with
    | @insert _ _ _ instant number stored _ _ _ later course =>
      refine .inr ⟨make, instant, number, rfl, later, ?_⟩
      cases stored with
      | error fault =>
        obtain ⟨rfl, _, rfl⟩ := course.of_done
        exact .inl ⟨fault, rfl, rfl⟩
      | ok id =>
        obtain ⟨watch, verdict, watched, calls, same⟩ := follow_goes course
        exact .inr ⟨id, watch, verdict, watched, by rw [List.filter_cons_of_pos rfl, calls], same⟩

end

theorem Bounded.reads_lt {scenario : Scenario} (bounded : scenario.Bounded) {now ended : Instant}
    {poll : Poll} {goal : Status → Bool} {left : Nat} {reads : List Read}
    {result : Option (Except Error PollOutcome)} (begun : Poll.start scenario.pace now = .ok poll)
    (trail : Poll.Trail goal left poll now reads ended result) : reads.length < UInt32.size := by
  obtain ⟨found, fresh⟩ := Poll.start_ok begun
  obtain ⟨fits, due⟩ := Instant.after?_eq_some_iff.mp found
  have paced : poll.interval = scenario.pace.interval := by rw [fresh]
  have spaced : 0 < scenario.pace.interval.nanos :=
    Nat.lt_of_lt_of_le (by decide) bounded.millisecond_le_interval
  have fit := trail.reads_fit (paced ▸ spaced) (due ▸ fits)
  rw [paced, due, Nat.add_sub_cancel_left] at fit
  apply Nat.lt_of_mul_lt_mul_right (a := scenario.pace.interval.nanos)
  calc reads.length * scenario.pace.interval.nanos
    _ < scenario.pace.timeout.nanos + 2 * scenario.pace.interval.nanos := fit
    _ ≤ scenario.pace.interval.nanos * (Poll.mostReads - 1) + 2 * scenario.pace.interval.nanos :=
      Nat.add_le_add_right bounded.timeout_le_rests _
    _ = UInt32.size * scenario.pace.interval.nanos := by
      rw [Nat.mul_comm, ← Nat.add_mul]
      rfl

/-- How a poll starts, what its reads make of it as long as they can be counted, and that exactly a
satisfied one is followed by one more read. -/
structure Concluded (polling : Polling) (confirming : Option Read) : Prop where
  head_began : ∀ first ∈ polling.reads.head?, first.began = polling.began
  le_began : ∀ read ∈ polling.reads ++ confirming.toList, polling.began ≤ read.began
  countable : scenario.Bounded → polling.reads.length < UInt32.size
  account : polling.reads.length < UInt32.size →
    Poll.Account Status.processed scenario.pace polling.began polling.reads polling.result
  confirms_iff : confirming.isSome ↔ ∃ outcome, polling.result = .ok outcome ∧ outcome.satisfied

variable {scenario} {inserted now ended : Instant} {verdict : Except Error Outcome}

theorem Awaited.concluded {reads : List Read} {result : Except Error PollOutcome}
    {confirming : Option Read}
    (awaited : scenario.Awaited now reads result confirming ended verdict) :
    scenario.Concluded ⟨now, reads, result⟩ confirming := by
  cases awaited with
  | refused refused =>
    obtain ⟨missing, rfl⟩ := Poll.start_error refused
    have none_lt : 0 < UInt32.size := by decide
    exact ⟨by simp, by simp, fun _ => none_lt, fun _ => .of_unstarted missing, by simp⟩
  | failed begun trail =>
    refine ⟨trail.head_began, ?_, (·.reads_lt begun trail), trail.account begun, by simp⟩
    simpa using trail.le_began
  | timedOut begun trail unsatisfied =>
    refine ⟨trail.head_began, ?_, (·.reads_lt begun trail), trail.account begun,
      by simp [unsatisfied]⟩
    simpa using trail.le_began
  | confirmed begun trail satisfied later =>
    refine ⟨trail.head_began, ?_, (·.reads_lt begun trail), trail.account begun,
      by simp [satisfied]⟩
    refine List.forall_mem_append.mpr ⟨trail.le_began, ?_⟩
    simpa using trail.le_ended

namespace Watched

variable {watch : Watch} (watched : scenario.Watched inserted watch ended verdict)

include watched

theorem early_iff : watch.early.isSome ↔ scenario.kind = .scheduled := by
  cases watched with
  | direct unscheduled => simp [unscheduled]
  | failed scheduled | hidden scheduled | early scheduled | pending scheduled => simp [scheduled]

theorem early_began :
    ∀ early ∈ watch.early, early.began = inserted ∧ inserted ≤ early.ended := by
  cases watched with
  | direct => simp
  | failed _ later | hidden _ later | early _ later | pending _ later => simpa using later

theorem of_hidden : ∀ early ∈ watch.early, early.answer = .ok none →
    watch.late = [] ∧ verdict = .ok (.failed .notVisible) := by
  cases watched with
  | direct | failed | early | pending => simp
  | hidden => simp [Watch.late]

theorem of_early : ∀ early ∈ watch.early, ∀ status, early.answer = .ok (some status) →
    status.processed → watch.late = [] ∧ verdict = .ok (.failed (.processedEarly status)) := by
  cases watched with
  | direct | failed | hidden => simp
  | early => simp [Watch.late]
  | pending _ _ pending => simp [pending]

theorem polls_iff : watch.polling.isSome ↔
    ∀ early ∈ watch.early, ∃ status, early.answer = .ok (some status) ∧
      status.processed = false := by
  cases watched with
  | direct | failed | hidden => simp
  | early _ _ processed => simp [processed]
  | pending _ _ pending => simp [pending]

theorem concluded :
    ∀ polling ∈ watch.polling, scenario.Concluded polling watch.confirming := by
  cases watched with
  | direct _ awaited | pending _ _ _ awaited => simpa using awaited.concluded
  | failed | hidden | early => simp

theorem polling_of_confirming (confirms : watch.confirming.isSome) : watch.polling.isSome := by
  cases watched with
  | direct | pending => rfl
  | failed | hidden | early => cases confirms

theorem direct_began (unscheduled : scenario.kind ≠ .scheduled) :
    ∀ polling ∈ watch.polling, polling.began = inserted := by
  cases watched with
  | direct => simp
  | failed scheduled | hidden scheduled | early scheduled | pending scheduled =>
    exact absurd scheduled unscheduled

theorem rested (short : scenario.wait.nanos ≤ Instant.farAway) :
    ∀ early ∈ watch.early, ∀ read ∈ watch.late,
      early.ended + scenario.wait.nanos ≤ read.began := by
  cases watched with
  | direct | failed | hidden | early => simp [Watch.late]
  | @pending seen _ _ _ _ _ _ _ _ _ awaited =>
    intro early same read member
    cases same
    exact Nat.le_trans (seen.add_le_after short) (awaited.concluded.le_began read member)

end Watched

end Scenario

end DeliveryCheck
