import Mathlib
import DeliveryCheck.Run.All
import DeliveryCheck.Store.Playback
import DeliveryCheck.Proofs.Scenario.Evidence

namespace DeliveryCheck.Scenario

section

variable {scenario : Scenario} {now ended : Instant} {reads : List Read} {outcome : Outcome}
  {confirming : Read}

/-- The reads end with one that satisfied the poll and the one that has to confirm it. -/
def ConfirmedBy (reads : List Read) (confirming : Read) : Prop :=
  ∃ earlier seen, reads = earlier ++ [seen, confirming] ∧ seen.Satisfies Status.processed

/-- A pass rests on a last read that saw the record processed, and any other confirming read makes the
check fail. -/
def PassIsConfirmed (reads : List Read) (outcome : Outcome) : Prop :=
  (outcome = .passed → ∃ last ∈ reads.getLast?, last.Satisfies Status.processed) ∧
    ∀ confirming, ConfirmedBy reads confirming → ¬ confirming.Satisfies Status.processed →
      outcome ≠ .passed

theorem confirmed_eq_passed_iff {status : Option Status} :
    confirmed status = .passed ↔ status.all Status.processed := by
  cases status with
  | none => simp [confirmed]
  | some status => cases processed : status.processed <;> simp [confirmed, processed]

theorem ConfirmedBy.cons (read : Read) (confirms : ConfirmedBy reads confirming) :
    ConfirmedBy (read :: reads) confirming := by
  obtain ⟨earlier, seen, rfl, satisfies⟩ := confirms
  exact ⟨read :: earlier, seen, rfl, satisfies⟩

theorem ConfirmedBy.getLast? (confirms : ConfirmedBy reads confirming) :
    reads.getLast? = some confirming := by
  obtain ⟨earlier, seen, rfl, _⟩ := confirms
  rw [List.append_cons, List.getLast?_concat]

theorem not_confirmedBy_singleton {read : Read} : ¬ ConfirmedBy [read] confirming := by
  intro ⟨earlier, seen, same, _⟩
  have length := congrArg List.length same
  simp at length

theorem Judged.decided (judged : scenario.Judged now reads ended outcome) :
    (outcome ≠ .passed ∧ ∀ read ∈ reads, ¬ read.Satisfies Status.processed) ∨
      ∃ confirming status, ConfirmedBy reads confirming ∧ confirming.answer = .ok status ∧
        outcome = Scenario.confirmed status := by
  cases judged with
  | timedOut begun trail unsatisfied =>
    have account := trail.account begun (Nat.lt_succ_of_le trail.length_le)
    exact .inl ⟨by simp, (account.gave_up _ rfl unsatisfied).1⟩
  | @confirmed _ _ finish _ _ status begun trail satisfied later =>
    have account := trail.account begun (Nat.lt_succ_of_le trail.length_le)
    obtain ⟨earlier, seen, shown, rfl, answered, processed, _⟩ := account.found _ rfl satisfied
    refine .inr ⟨⟨finish, ended, .ok status⟩, status, ⟨earlier, seen, ?_, shown, answered, processed⟩,
      rfl, rfl⟩
    simp

theorem Evidence.confirmedBy_of_passed (evidence : scenario.Evidence now reads ended .passed) :
    ∃ confirming, ConfirmedBy reads confirming := by
  cases evidence with
  | direct _ judged =>
    rcases judged.decided with ⟨failed, _⟩ | ⟨confirming, _, confirms, _⟩
    · exact absurd rfl failed
    · exact ⟨confirming, confirms⟩
  | pending _ _ _ judged =>
    rcases judged.decided with ⟨failed, _⟩ | ⟨confirming, _, confirms, _⟩
    · exact absurd rfl failed
    · exact ⟨confirming, confirms.cons _⟩

theorem Judged.outcome_of_confirmedBy (judged : scenario.Judged now reads ended outcome)
    (confirms : ConfirmedBy reads confirming) :
    ∃ status, confirming.answer = .ok status ∧ outcome = Scenario.confirmed status := by
  rcases judged.decided with ⟨_, unsatisfied⟩ | ⟨other, status, confirmsToo, answered, decided⟩
  · obtain ⟨earlier, seen, rfl, satisfies⟩ := confirms
    exact absurd satisfies (unsatisfied seen (by simp))
  · have same : some other = some confirming := confirmsToo.getLast?.symm.trans confirms.getLast?
    cases same
    exact ⟨status, answered, decided⟩

theorem Evidence.outcome_of_confirmedBy (evidence : scenario.Evidence now reads ended outcome)
    (confirms : ConfirmedBy reads confirming) :
    ∃ status, confirming.answer = .ok status ∧ outcome = confirmed status := by
  cases evidence with
  | direct _ judged => exact judged.outcome_of_confirmedBy confirms
  | hidden | early => exact absurd confirms not_confirmedBy_singleton
  | pending _ _ pending judged =>
    obtain ⟨earlier, first, split, satisfies⟩ := confirms
    rcases List.cons_eq_append_iff.mp split with ⟨rfl, same⟩ | ⟨others, rfl, rfl⟩
    · -- the early read found the record pending, so it did not satisfy the poll
      cases same
      obtain ⟨shown, answered, processed⟩ := satisfies
      cases answered
      simp [pending] at processed
    · exact judged.outcome_of_confirmedBy ⟨others, first, rfl, satisfies⟩

theorem Evidence.passed_iff (evidence : scenario.Evidence now reads ended outcome) :
    outcome = .passed ↔
      ∃ confirming status, ConfirmedBy reads confirming ∧ confirming.answer = .ok status ∧
        status.all Status.processed := by
  constructor
  · intro passed
    subst passed
    obtain ⟨confirming, confirms⟩ := evidence.confirmedBy_of_passed
    obtain ⟨status, answered, passes⟩ := evidence.outcome_of_confirmedBy confirms
    exact ⟨confirming, status, confirms, answered, confirmed_eq_passed_iff.mp passes.symm⟩
  · intro ⟨confirming, status, confirms, answered, processed⟩
    obtain ⟨other, answeredToo, same⟩ := evidence.outcome_of_confirmedBy confirms
    rw [answered] at answeredToo
    cases answeredToo
    rw [same, confirmed_eq_passed_iff]
    exact processed

theorem Evidence.passIsConfirmed_iff (evidence : scenario.Evidence now reads ended outcome) :
    PassIsConfirmed reads outcome ↔
      ¬ ∃ confirming, ConfirmedBy reads confirming ∧ confirming.answer = .ok none := by
  constructor
  · intro ⟨_, others⟩ ⟨confirming, confirms, vanished⟩
    have passed : outcome = .passed :=
      evidence.passed_iff.mpr ⟨confirming, none, confirms, vanished, rfl⟩
    refine others confirming confirms ?_ passed
    intro ⟨status, answered, _⟩
    rw [vanished] at answered
    cases answered
  · intro visible
    have sees : ∀ confirming, ConfirmedBy reads confirming → outcome = .passed →
        confirming.Satisfies Status.processed := by
      intro confirming confirms passed
      obtain ⟨status, answered, same⟩ := evidence.outcome_of_confirmedBy confirms
      have processed := confirmed_eq_passed_iff.mp (same.symm.trans passed)
      cases status with
      | none => exact absurd ⟨confirming, confirms, answered⟩ visible
      | some status => exact ⟨status, answered, by simpa using processed⟩
    constructor
    · intro passed
      obtain ⟨confirming, status, confirms, _⟩ := evidence.passed_iff.mp passed
      exact ⟨confirming, confirms.getLast?, sees confirming confirms passed⟩
    · intro confirming confirms unprocessed passed
      exact unprocessed (sees confirming confirms passed)

end

/-- From one world to another the store was called to insert one record and then to read it. -/
def InsertedThenRead {σ : Type} (world after : World σ) (id : Uuid) (reads : List Read) : Prop :=
  ∃ (story : List Event) (began ended : Instant) (number : Nat) (record : Record),
    after.history = story.reverse ++ world.history ∧
      story.filter Event.isCall =
        .inserted began ended number record (.ok id) :: reads.map (Read.event id)

/-- A check that comes to an outcome passes exactly if its last read, after one that satisfied the poll,
does not see the record pending; that read has confirmed the pass unless it no longer found the
record. -/
theorem pass_is_confirmed_iff {σ : Type} (setting : Setting σ) (limit : Option Instant)
    (scenario : Scenario) (world after : World σ) (result : ScenarioResult)
    (ends : (Run.begin setting world scenario).alone setting limit world =
      (some (.ok result), after)) :
    ∃ reads, InsertedThenRead world after result.id reads ∧
      (result.outcome = .passed ↔
        ∃ confirming status, ConfirmedBy reads confirming ∧ confirming.answer = .ok status ∧
          status.all Status.processed) ∧
      (PassIsConfirmed reads result.outcome ↔
        ¬ ∃ confirming, ConfirmedBy reads confirming ∧ confirming.answer = .ok none) := by
  obtain ⟨story, course, told⟩ :=
    Procedure.alone_course setting limit (Run.begin setting world scenario) world
  simp only [ends] at course told
  obtain ⟨make, instant, number, id, reads, outcome, _, _, calls, evidence, rfl⟩ :=
    check_course course
  exact ⟨reads, ⟨story, _, _, _, _, told, calls⟩, evidence.passed_iff, evidence.passIsConfirmed_iff⟩

namespace Sample

def scenario : Scenario where
  name := "sample"
  kind := .immediate
  title := "T"
  body := "B"
  category := "system"
  priority := none
  pace := ⟨.ofSeconds 10, .ofMillis 500⟩
  delay := .zero
  buffer := .zero

def setting : Setting Playback.State :=
  ⟨Playback.store, fun issued => ⟨.ofNat (issued + 1), .ofNat (issued + 1)⟩, fun now => ⟨now⟩⟩

def world (replies : List (Option Status)) : World Playback.State :=
  ⟨0, { insertions := [], scripts := [replies.map fun reply => { reply := .ok reply }] }, 0, []⟩

def run (replies : List (Option Status)) :
    Option (Except Error ScenarioResult) × World Playback.State :=
  (Run.begin setting (world replies) scenario).alone setting none (world replies)

def processed : Status := ⟨true, 0, none⟩

def passed (elapsed : Duration) : ScenarioResult :=
  ⟨"sample", .immediate, .ofNat 1, .passed, elapsed⟩

end Sample

theorem pass_is_confirmed_third_read :
    Sample.run [none, some .pending, some Sample.processed] =
        (some (.ok (Sample.passed (.ofMillis 1000))),
          (Sample.run [none, some .pending, some Sample.processed]).2) ∧
      ∃ reads, InsertedThenRead (Sample.world [none, some .pending, some Sample.processed])
          (Sample.run [none, some .pending, some Sample.processed]).2 (.ofNat 1) reads ∧
        (Outcome.passed = .passed ↔
          ∃ confirming status, ConfirmedBy reads confirming ∧ confirming.answer = .ok status ∧
            status.all Status.processed) ∧
        (PassIsConfirmed reads .passed ↔
          ¬ ∃ confirming, ConfirmedBy reads confirming ∧ confirming.answer = .ok none) := by
  have ends : Sample.run [none, some .pending, some Sample.processed] =
      (some (.ok (Sample.passed (.ofMillis 1000))),
        (Sample.run [none, some .pending, some Sample.processed]).2) := Prod.ext (by cbv) rfl
  exact ⟨ends, pass_is_confirmed_iff Sample.setting none Sample.scenario
    (Sample.world [none, some .pending, some Sample.processed]) _ _ ends⟩

theorem vanished_record_passes :
    (Sample.run [some Sample.processed, none]).1 = some (.ok (Sample.passed .zero)) ∧
      ((Sample.run [some Sample.processed, none]).2.history.filter Event.isCall).take 2 =
        [.read 0 0 (.ofNat 1) (.ok none), .read 0 0 (.ofNat 1) (.ok (some Sample.processed))] ∧
      ¬ PassIsConfirmed [⟨0, 0, .ok (some Sample.processed)⟩, ⟨0, 0, .ok none⟩] .passed := by
  refine ⟨by cbv, by cbv, fun confirmed => ?_⟩
  obtain ⟨last, shown, status, answered, _⟩ := confirmed.1 rfl
  cases shown
  cases answered

end DeliveryCheck.Scenario
