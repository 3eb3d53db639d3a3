import Mathlib.Data.List.Chain
import DeliveryCheck.Poll.Basic
import DeliveryCheck.Proofs.Procedure.Course

namespace DeliveryCheck

structure Read where
  began : Instant
  ended : Instant
  answer : Except Error (Option Status)

namespace Read

def event (id : Uuid) (read : Read) : Event := .read read.began read.ended id read.answer

def saw? (read : Read) : Option Status :=
  match read.answer with
  | .ok status => status
  | .error _ => none

def Failed (read : Read) (fault : Error) : Prop := read.answer = .error fault

def Satisfies (read : Read) (goal : Status → Bool) : Prop :=
  ∃ status, read.answer = .ok (some status) ∧ goal status

theorem satisfies_iff_any {read : Read} {status : Option Status} {goal : Status → Bool}
    (answered : read.answer = .ok status) : read.Satisfies goal ↔ status.any goal := by
  cases status <;> simp [Satisfies, answered]

/-- The second of two reads comes when a poll has rested for its interval after the first, or on its
deadline if that is sooner. -/
def Precedes (interval : Duration) (deadline : Instant) (one two : Read) : Prop :=
  one.ended < deadline ∧ two.began = one.ended + min interval.nanos (deadline - one.ended)

end Read

namespace Poll

variable {α : Type} {goal : Status → Bool} {poll following : Poll} {status : Option Status}
  {now : Instant}

theorem step_over {outcome : PollOutcome} (stopped : poll.step goal status now = .over outcome) :
    outcome = (poll.count status).outcome (status.any goal) now ∧
      (status.any goal = false → poll.deadline ≤ now) := by
  unfold step at stopped
  by_cases satisfied : status.any goal
  · simp only [satisfied, ↓reduceIte, Step.over.injEq] at stopped
    simp [satisfied, stopped]
  · by_cases late : poll.deadline ≤ now
    · simp only [satisfied, late, Bool.false_eq_true, ↓reduceIte, Step.over.injEq] at stopped
      simp [satisfied, late, stopped]
    · simp [satisfied, late] at stopped

theorem step_rest {length : Duration} (rests : poll.step goal status now = .rest length following) :
    status.any goal = false ∧ now < poll.deadline ∧ length = poll.untilNext now ∧
      following = poll.count status := by
  unfold step at rests
  by_cases satisfied : status.any goal
  · simp [satisfied] at rests
  · by_cases late : poll.deadline ≤ now
    · simp [satisfied, late] at rests
    · simp only [satisfied, late, Bool.false_eq_true, ↓reduceIte, Step.rest.injEq] at rests
      exact ⟨by simpa using satisfied, Nat.lt_of_not_le late, rests.1.symm, rests.2.symm⟩

theorem rest_nanos (interval : Duration) {ended since : Nat} (unfinished : since < ended) :
    since + (Duration.clamp (min interval.nanos (ended - since))).nanos ≤ ended ∧
      ((Duration.clamp (min interval.nanos (ended - since))).nanos = interval.nanos ∨
        since + (Duration.clamp (min interval.nanos (ended - since))).nanos = ended) := by
  have most := interval.nanos_le
  rw [Duration.nanos_clamp]
  omega

theorem after_untilNext (fits : poll.deadline < Instant.limit) (early : now < poll.deadline) :
    now.after (poll.untilNext now) = now + min poll.interval.nanos (poll.deadline - now) := by
  have whole : (poll.untilNext now).nanos = min poll.interval.nanos (poll.deadline - now) :=
    Nat.min_eq_left (Nat.le_trans (Nat.min_le_left ..) poll.interval.nanos_le)
  have inTime : now + (poll.untilNext now).nanos ≤ poll.deadline := (rest_nanos poll.interval early).1
  rw [Instant.after_of_lt (Nat.lt_of_le_of_lt inTime fits), whole]

def seeing (poll : Poll) (reads : List Read) : Poll :=
  { poll with
    last := (reads.filterMap Read.saw?).getLast?.or poll.last
    observations := poll.observations + reads.length }

theorem count_seeing (reads : List Read) (began ended : Instant) :
    (poll.count status).seeing reads = poll.seeing (⟨began, ended, .ok status⟩ :: reads) := by
  have last : (reads.filterMap Read.saw?).getLast?.or (status.or poll.last) =
      ((Read.mk began ended (.ok status) :: reads).filterMap Read.saw?).getLast?.or poll.last := by
    cases status with
    | none => rfl
    | some status =>
      have seen : Read.saw? ⟨began, ended, .ok (some status)⟩ = some status := rfl
      rw [List.filterMap_cons_some seen, List.getLast?_cons]
      cases (reads.filterMap Read.saw?).getLast? <;> rfl
  simp only [seeing, count, last, List.length_cons]
  congr 1
  omega

/-- The reads of a poll that can count `left` more of them, from its next one on: when that starts, the
reads themselves, when the poll ends and what it returns unless it is cut off. -/
inductive Trail (goal : Status → Bool) :
    Nat → Poll → Instant → List Read → Instant → Option (Except Error PollOutcome) → Prop where
  | cut {left poll now ended} : Trail goal left poll now [] ended none
  | failed {left poll now ended fault} (later : now ≤ ended) :
    Trail goal left poll now [⟨now, ended, .error fault⟩] ended (some (.error fault))
  | uncountable {poll now ended status} (later : now ≤ ended) :
    Trail goal 0 poll now [⟨now, ended, .ok status⟩] ended (some (.error uncountable))
  | stopped {left poll now ended status outcome} (later : now ≤ ended)
    (stopped : poll.step goal status ended = .over outcome) :
    Trail goal (left + 1) poll now [⟨now, ended, .ok status⟩] ended (some (.ok outcome))
  | rest {left poll now ended status length following reads finish result} (later : now ≤ ended)
    (rests : poll.step goal status ended = .rest length following)
    (others : Trail goal left following (ended.after length) reads finish result) :
    Trail goal (left + 1) poll now (⟨now, ended, .ok status⟩ :: reads) finish result

theorem observe_course {identity : Nat → Identity} {id : Uuid}
    {next : Instant → Except Error PollOutcome → Procedure α} {left : Nat} {story : List Event}
    {ended : Instant} {result : Option α}
    (course : (observe goal id next left poll).Course identity now story ended result) :
    (∃ reads, Trail goal left poll now reads ended none ∧ story = reads.map (Read.event id) ∧
      result = none) ∨
    ∃ reads finish polled rest, Trail goal left poll now reads finish (some polled) ∧
      story = reads.map (Read.event id) ++ rest ∧
      (next finish polled).Course identity finish rest ended result := by
  induction left generalizing poll now story with
  | zero =>
    unfold observe at course
    cases course with
    | cut => exact .inl ⟨[], .cut, rfl, rfl⟩
    | @read _ _ _ instant answer rest _ _ later course =>
      refine .inr ⟨[⟨now, instant, answer⟩], instant, ?_⟩
      cases answer with
      | error fault => exact ⟨_, rest, .failed later, rfl, course⟩
      | ok status => exact ⟨_, rest, .uncountable later, rfl, course⟩
  | succ left ih =>
    unfold observe at course
    cases course with
    | cut => exact .inl ⟨[], .cut, rfl, rfl⟩
    | @read _ _ _ instant answer rest _ _ later course =>
      cases answer with
      | error fault =>
        refine .inr ⟨[⟨now, instant, .error fault⟩], instant, ?_⟩
        exact ⟨_, rest, .failed later, rfl, course⟩
      | ok status =>
        rcases stepped : poll.step goal status instant with outcome | ⟨length, following⟩
        · simp only [stepped] at course
          refine .inr ⟨[⟨now, instant, .ok status⟩], instant, ?_⟩
          exact ⟨_, rest, .stopped later stepped, rfl, course⟩
        · simp only [stepped] at course
          cases course with
          | cut => exact .inl ⟨[⟨now, instant, .ok status⟩], .rest later stepped .cut, rfl, rfl⟩
          | pause course =>
            rcases ih course with
              ⟨reads, trail, rfl, cut⟩ | ⟨reads, finish, polled, rest, trail, rfl, onward⟩
            · exact .inl ⟨_, .rest later stepped trail, rfl, cut⟩
            · exact .inr ⟨⟨now, instant, .ok status⟩ :: reads, finish, polled, rest,
                .rest later stepped trail, rfl, onward⟩

theorem Trail.finished {left : Nat} {reads : List Read} {ended : Instant}
    {result : Except Error PollOutcome} (trail : Trail goal left poll now reads ended (some result))
    (few : reads.length ≤ left) :
    ∃ earlier last, reads = earlier ++ [last] ∧ last.ended = ended ∧
      (∀ read ∈ earlier, ∃ status, read.answer = .ok status ∧ status.any goal = false) ∧
      ((∃ fault, last.answer = .error fault ∧ result = .error fault) ∨
        ∃ status, last.answer = .ok status ∧
          result = .ok ((poll.seeing reads).outcome (status.any goal) ended) ∧
          (status.any goal = false → poll.deadline ≤ ended)) := by
  generalize finished : some result = returned at trail
  induction trail with
  | cut => cases finished
  | failed later =>
    cases finished
    exact ⟨[], _, rfl, rfl, by simp, .inl ⟨_, rfl, rfl⟩⟩
  | uncountable later => simp at few
  | stopped later stopped =>
    cases finished
    obtain ⟨rfl, late⟩ := step_over stopped
    exact ⟨[], _, rfl, rfl, by simp, .inr ⟨_, rfl, by rw [← count_seeing]; rfl, late⟩⟩
  | @rest _ poll now instant status _ _ _ _ _ later rests others ih =>
    obtain ⟨unsatisfied, _, rfl, rfl⟩ := step_rest rests
    obtain ⟨earlier, last, rfl, ends, succeeded, decided⟩ :=
      ih (by simpa using few) finished
    refine ⟨⟨now, instant, .ok status⟩ :: earlier, last, rfl, ends, ?_, ?_⟩
    · exact List.forall_mem_cons.mpr ⟨⟨status, rfl, unsatisfied⟩, succeeded⟩
    · rwa [← count_seeing]

theorem Trail.length_le {left : Nat} {reads : List Read} {ended : Instant} {outcome : PollOutcome}
    (trail : Trail goal left poll now reads ended (some (.ok outcome))) : reads.length ≤ left := by
  generalize finished : some (Except.ok outcome) = returned at trail
  induction trail with
  | cut | failed | uncountable => cases finished
  | stopped => simp
  | rest later rests others ih => simpa using ih finished

theorem Trail.head_began {left : Nat} {reads : List Read} {ended : Instant}
    {result : Option (Except Error PollOutcome)} (trail : Trail goal left poll now reads ended result) :
    ∀ first ∈ reads.head?, first.began = now := by
  cases trail with
  | cut => simp
  | failed | uncountable | stopped | rest => simp

theorem Trail.le_began {left : Nat} {reads : List Read} {ended : Instant}
    {result : Option (Except Error PollOutcome)} (trail : Trail goal left poll now reads ended result) :
    ∀ read ∈ reads, now ≤ read.began := by
  induction trail with
  | cut => simp
  | failed | uncountable | stopped => simp
  | @rest _ _ now instant _ length _ _ _ _ later _ _ ih =>
    have onward : now ≤ instant.after length := Nat.le_trans later (instant.le_after length)
    exact List.forall_mem_cons.mpr
      ⟨Nat.le_refl now, fun read member => Nat.le_trans onward (ih read member)⟩

theorem Trail.le_ended {left : Nat} {reads : List Read} {ended : Instant} {result : Except Error PollOutcome}
    (trail : Trail goal left poll now reads ended (some result)) : now ≤ ended := by
  generalize finished : some result = returned at trail
  induction trail with
  | cut => cases finished
  | failed later | uncountable later | stopped later => exact later
  | @rest _ _ now instant _ length _ _ _ _ later _ _ ih =>
    exact Nat.le_trans later (Nat.le_trans (instant.le_after length) (ih finished))

theorem Trail.began_le_ended {left : Nat} {reads : List Read} {ended : Instant}
    {result : Option (Except Error PollOutcome)} (trail : Trail goal left poll now reads ended result) :
    ∀ read ∈ reads, read.began ≤ read.ended := by
  induction trail with
  | cut => simp
  | failed later | uncountable later | stopped later => simpa using later
  | rest later _ _ ih => exact List.forall_mem_cons.mpr ⟨later, ih⟩

theorem Trail.getLast?_ended {left : Nat} {reads : List Read} {ended : Instant}
    {result : Except Error PollOutcome} (trail : Trail goal left poll now reads ended (some result)) :
    reads.getLast?.map Read.ended = some ended := by
  generalize finished : some result = returned at trail
  induction trail with
  | cut => cases finished
  | failed | uncountable | stopped => rfl
  | rest _ _ _ ih =>
    obtain ⟨last, found, ends⟩ := Option.map_eq_some_iff.mp (ih finished)
    rw [List.getLast?_cons, found, Option.getD_some, Option.map_some, ends]

theorem Trail.isChain {left : Nat} {reads : List Read} {ended : Instant}
    {result : Option (Except Error PollOutcome)} (trail : Trail goal left poll now reads ended result)
    (fits : poll.deadline < Instant.limit) :
    reads.IsChain (Read.Precedes poll.interval poll.deadline) := by
  induction trail with
  | cut => exact .nil
  | failed | uncountable | stopped => exact .singleton _
  | @rest _ poll _ instant _ _ _ reads _ _ _ rests others ih =>
    obtain ⟨_, early, rfl, rfl⟩ := step_rest rests
    cases reads with
    | nil => exact .singleton _
    | cons next reads =>
      have began : next.began = instant.after (poll.untilNext instant) := others.head_began next rfl
      exact .cons_cons ⟨early, began.trans (after_untilNext fits early)⟩ (ih fits)

theorem reads_fit_succ {interval count deadline began ended next : Nat} (later : began ≤ ended)
    (early : ended < deadline) (inTime : next ≤ deadline)
    (rested : next = ended + interval ∨ next = deadline)
    (fit : count * interval < deadline - next + 2 * interval) :
    (count + 1) * interval < deadline - began + 2 * interval := by
  rw [Nat.add_one_mul]
  rcases rested with rfl | rfl
  · omega
  · have few : count < 2 := Nat.lt_of_mul_lt_mul_right (by simpa using fit)
    have most : count * interval ≤ 1 * interval := Nat.mul_le_mul_right interval (by omega)
    omega

theorem Trail.reads_fit {left : Nat} {reads : List Read} {ended : Instant}
    {result : Option (Except Error PollOutcome)} (trail : Trail goal left poll now reads ended result)
    (spaced : 0 < poll.interval.nanos) (fits : poll.deadline < Instant.limit) :
    reads.length * poll.interval.nanos < poll.deadline - now + 2 * poll.interval.nanos := by
  induction trail with
  | cut => rw [List.length_nil]; omega
  | failed | uncountable | stopped => rw [List.length_singleton]; omega
  | @rest _ poll _ instant _ _ _ _ _ _ later rests _ ih =>
    obtain ⟨_, early, rfl, rfl⟩ := step_rest rests
    obtain ⟨inTime, rested⟩ := rest_nanos poll.interval early
    have onward : instant.after (poll.untilNext instant) =
        instant + (poll.untilNext instant).nanos :=
      Instant.after_of_lt (Nat.lt_of_le_of_lt inTime fits)
    have fit := ih spaced fits
    rw [onward] at fit
    rw [List.length_cons]
    exact reads_fit_succ later early inTime (rested.imp_left (congrArg (instant + ·))) fit

theorem Trail.decided {left : Nat} {reads : List Read} {ended : Instant} {outcome : PollOutcome}
    (trail : Trail goal left poll now reads ended (some (.ok outcome))) :
    ∃ earlier last status, reads = earlier ++ [last] ∧ last.ended = ended ∧
      (∀ read ∈ earlier, ∃ status, read.answer = .ok status ∧ status.any goal = false) ∧
      last.answer = .ok status ∧ outcome = (poll.seeing reads).outcome (status.any goal) ended ∧
      (status.any goal = false → poll.deadline ≤ ended) := by
  obtain ⟨earlier, last, split, ends, succeeded, decided⟩ := trail.finished trail.length_le
  rcases decided with ⟨fault, _, same⟩ | ⟨status, answered, same, late⟩
  · cases same
  · cases same
    exact ⟨earlier, last, status, split, ends, succeeded, answered, rfl, late⟩

section

variable {earlier : List Read} {last : Read}
  (succeeded : ∀ read ∈ earlier, ∃ status, read.answer = .ok status ∧ status.any goal = false)

include succeeded

theorem not_satisfies_of_succeeded : ∀ read ∈ earlier, ¬ read.Satisfies goal := by
  intro read member
  obtain ⟨status, answered, fails⟩ := succeeded read member
  rw [Read.satisfies_iff_any answered, fails]
  exact Bool.false_ne_true

theorem answered_of_succeeded (answered : last.answer = .ok status) :
    ∀ read ∈ earlier ++ [last], ∃ status, read.answer = .ok status := by
  intro read member
  rcases List.mem_append.mp member with member | member
  · obtain ⟨status, answered, _⟩ := succeeded read member
    exact ⟨status, answered⟩
  · rw [List.mem_singleton.mp member]
    exact ⟨status, answered⟩

end

end Poll

end DeliveryCheck
