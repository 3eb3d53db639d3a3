import DeliveryCheck.Proofs.Scenario.Evidence

namespace DeliveryCheck.Scenario

variable {scenario : Scenario} {now ended : Instant} {reads : List Read} {outcome : Outcome}
  {answer : Option Status}

theorem Judged.answered (judged : scenario.Judged now reads ended outcome) :
    ∀ read ∈ reads, ∃ status, read.answer = .ok status := by
  cases judged with
  | timedOut begun trail =>
    obtain ⟨earlier, last, status, rfl, _, succeeded, answered, _⟩ := trail.decided
    exact Poll.answered_of_succeeded succeeded answered
  | confirmed begun trail =>
    obtain ⟨earlier, last, status, rfl, _, succeeded, answered, _⟩ := trail.decided
    intro read member
    rcases List.mem_append.mp member with member | member
    · exact Poll.answered_of_succeeded succeeded answered read member
    · rw [List.mem_singleton.mp member]
      exact ⟨_, rfl⟩

theorem Evidence.answered (evidence : scenario.Evidence now reads ended outcome) :
    ∀ read ∈ reads, ∃ status, read.answer = .ok status := by
  cases evidence with
  | direct _ judged => exact judged.answered
  | hidden | early =>
    intro read member
    rw [List.mem_singleton.mp member]
    exact ⟨_, rfl⟩
  | pending _ _ _ judged => exact List.forall_mem_cons.mpr ⟨⟨_, rfl⟩, judged.answered⟩

theorem getLast?_filterMap_saw? (some : reads ≠ [])
    (constant : ∀ read ∈ reads, read.answer = .ok answer) :
    (reads.filterMap Read.saw?).getLast? = answer := by
  have saw : ∀ read ∈ reads, read.saw? = answer := by
    intro read member
    rw [Read.saw?, constant read member]
  cases answer with
  | none => rw [List.filterMap_eq_nil_iff.mpr saw, List.getLast?_nil]
  | some status =>
    obtain ⟨earlier, last, rfl⟩ := List.eq_nil_or_concat reads |>.resolve_left some
    rw [List.concat_eq_append, List.filterMap_append, List.filterMap_cons_some (saw last (by simp))]
    simp

theorem Judged.timedOut_of_constant (judged : scenario.Judged now reads ended outcome)
    (constant : ∀ read ∈ reads, read.answer = .ok answer)
    (unprocessed : answer.any Status.processed = false) :
    ∃ waited observations, outcome = .failed (.timedOut answer waited observations) := by
  cases judged with
  | @timedOut _ _ _ polled begun trail _ =>
    have account := trail.account begun (Nat.lt_succ_of_le trail.length_le)
    obtain ⟨earlier, last, _, split, _⟩ := trail.decided
    have seen := getLast?_filterMap_saw? (by simp [split]) constant
    rw [← account.last_eq polled rfl] at seen
    exact ⟨_, _, by rw [seen]⟩
  | confirmed begun trail satisfied later =>
    have account := trail.account begun (Nat.lt_succ_of_le trail.length_le)
    obtain ⟨earlier, last, status, rfl, answered, processed, _⟩ := account.found _ rfl satisfied
    have same := constant last (by simp)
    rw [answered] at same
    cases same
    simp [processed] at unprocessed

theorem Evidence.timedOut_of_constant {status : Status}
    (evidence : scenario.Evidence now reads ended outcome)
    (constant : ∀ read ∈ reads, read.answer = .ok (some status))
    (unprocessed : status.processed = false) :
    ∃ waited observations, outcome = .failed (.timedOut (some status) waited observations) := by
  cases evidence with
  | direct _ judged => exact judged.timedOut_of_constant constant (by simpa using unprocessed)
  | hidden => cases constant _ (List.mem_singleton_self _)
  | early _ _ processed =>
    cases constant _ (List.mem_singleton_self _)
    rw [unprocessed] at processed
    cases processed
  | pending _ _ _ judged =>
    have others := fun read member => constant read (List.mem_cons_of_mem _ member)
    exact judged.timedOut_of_constant others (by simpa using unprocessed)

theorem Evidence.outcome_of_hidden (evidence : scenario.Evidence now reads ended outcome)
    (constant : ∀ read ∈ reads, read.answer = .ok none) :
    if scenario.kind = .scheduled then outcome = .failed .notVisible
    else ∃ waited observations, outcome = .failed (.timedOut none waited observations) := by
  cases evidence with
  | direct unscheduled judged =>
    rw [if_neg unscheduled]
    exact judged.timedOut_of_constant constant rfl
  | hidden scheduled => rw [if_pos scheduled]
  | early => cases constant _ (List.mem_singleton_self _)
  | pending => cases constant _ List.mem_cons_self

theorem Evidence.early_of_processed {status : Status}
    (evidence : scenario.Evidence now reads ended outcome)
    (constant : ∀ read ∈ reads, read.answer = .ok (some status)) (processed : status.processed)
    (scheduled : scenario.kind = .scheduled) : outcome = .failed (.processedEarly status) := by
  cases evidence with
  | direct unscheduled => exact absurd scheduled unscheduled
  | hidden => cases constant _ (List.mem_singleton_self _)
  | early =>
    cases constant _ (List.mem_singleton_self _)
    rfl
  | pending _ _ pending =>
    cases constant _ List.mem_cons_self
    rw [processed] at pending
    cases pending

/-- No two reads see the record processed, and every read sees it. -/
structure SeenOnce (reads : List Read) : Prop where
  visible : ∀ read ∈ reads, read.answer ≠ .ok none
  once : reads.Pairwise fun earlier later =>
    earlier.Satisfies Status.processed → ¬ later.Satisfies Status.processed

theorem Judged.fails_of_once (judged : scenario.Judged now reads ended outcome)
    (seen : SeenOnce reads) :
    (∃ status, outcome = .failed (.regressed status)) ∨
      ∃ last waited observations, outcome = .failed (.timedOut last waited observations) := by
  cases judged with
  | timedOut => exact .inr ⟨_, _, _, rfl⟩
  | @confirmed _ _ finish _ _ status begun trail satisfied later =>
    have account := trail.account begun (Nat.lt_succ_of_le trail.length_le)
    obtain ⟨earlier, last, shown, rfl, answered, processed, _⟩ := account.found _ rfl satisfied
    -- the read that satisfied the poll leaves nothing for the confirming one to see
    have again := (List.pairwise_append.mp seen.once).2.2 last (by simp) ⟨finish, ended, .ok status⟩
      (by simp) ⟨shown, answered, processed⟩
    cases status with
    | none => exact absurd rfl (seen.visible ⟨finish, ended, .ok none⟩ (by simp))
    | some status =>
      have reverted : ¬ status.processed := fun processed => again ⟨status, rfl, processed⟩
      refine .inl ⟨status, ?_⟩
      rw [Scenario.confirmed, if_neg reverted]

theorem Evidence.fails_of_once (evidence : scenario.Evidence now reads ended outcome)
    (seen : SeenOnce reads) :
    (∃ status, outcome = .failed (.regressed status)) ∨
      (∃ last waited observations, outcome = .failed (.timedOut last waited observations)) ∨
      (scenario.kind = .scheduled ∧ ∃ status, outcome = .failed (.processedEarly status)) := by
  cases evidence with
  | direct _ judged => exact (judged.fails_of_once seen).imp_right .inl
  | hidden => exact absurd rfl (seen.visible _ (List.mem_singleton_self _))
  | early scheduled => exact .inr (.inr ⟨scheduled, _, rfl⟩)
  | pending _ _ _ judged =>
    have rest : SeenOnce _ := ⟨fun read member => seen.visible read (List.mem_cons_of_mem _ member),
      (List.pairwise_cons.mp seen.once).2⟩
    exact (judged.fails_of_once rest).imp_right .inl

end DeliveryCheck.Scenario
