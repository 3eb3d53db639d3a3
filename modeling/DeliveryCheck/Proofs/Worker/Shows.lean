import DeliveryCheck.Proofs.Scenario.Verdict
import DeliveryCheck.Proofs.Worker.Told

namespace DeliveryCheck.Worker

namespace Entry

inductive Shows : Entry → List Read → Prop where
  | nil {entry} : Shows entry []
  | seen {entry later began ended status reads}
    (observed : entry.observe ended = some (status, later)) (rest : Shows later reads) :
    Shows entry (⟨began, ended, .ok status⟩ :: reads)
  | failed {entry began ended fault reads} (rest : Shows entry reads) :
    Shows entry (⟨began, ended, .error fault⟩ :: reads)

variable {entry : Entry} {reads : List Read}

theorem Shows.constant (shows : entry.Shows reads) {answer : Option Status}
    (observes : ∀ now, entry.observe now = some (answer, entry)) :
    ∀ read ∈ reads, ∀ status, read.answer = .ok status → status = answer := by
  induction shows with
  | nil => simp
  | @seen _ _ _ ended _ _ observed _ ih =>
    rw [observes ended] at observed
    cases observed
    refine List.forall_mem_cons.mpr ⟨?_, ih observes⟩
    intro status answered
    cases answered
    rfl
  | failed _ ih => exact List.forall_mem_cons.mpr ⟨nofun, ih observes⟩

theorem observe_flapping {latency : Duration} {later : Entry} {now : Instant} {status : Option Status}
    (flaps : entry.behavior = .flapping latency)
    (observed : entry.observe now = some (status, later)) :
    ∃ shown, status = some shown ∧ entry.lateReads ≤ later.lateReads ∧
      (shown.processed → entry.lateReads = 0 ∧ 0 < later.lateReads) := by
  simp only [observe, flaps, Option.map_eq_some_iff] at observed
  obtain ⟨ready, _, same⟩ := observed
  split at same
  · cases same
    exact ⟨_, rfl, Nat.le_succ _, by simp [statusOf]⟩
  · cases same
    exact ⟨_, rfl, Nat.le_refl _, by simp [statusOf]⟩

theorem Shows.taken_back {latency : Duration} (flaps : entry.behavior = .flapping latency)
    (shows : entry.Shows reads) (late : 0 < entry.lateReads) :
    ∀ read ∈ reads, ¬ read.Satisfies Status.processed := by
  induction shows with
  | nil => simp
  | seen observed _ ih =>
    obtain ⟨shown, rfl, grows, once⟩ := observe_flapping flaps observed
    have keeps := (behavior_observe observed).trans flaps
    refine List.forall_mem_cons.mpr ⟨?_, ih keeps (Nat.lt_of_lt_of_le late grows)⟩
    intro ⟨status, answered, processed⟩
    cases answered
    exact absurd (once processed).1 (Nat.ne_of_gt late)
  | failed _ ih =>
    refine List.forall_mem_cons.mpr ⟨?_, ih flaps late⟩
    intro ⟨status, answered, _⟩
    cases answered

theorem Shows.seenOnce {latency : Duration} (flaps : entry.behavior = .flapping latency)
    (shows : entry.Shows reads) : Scenario.SeenOnce reads := by
  induction shows with
  | nil => exact ⟨by simp, .nil⟩
  | seen observed rest ih =>
    obtain ⟨shown, rfl, _, once⟩ := observe_flapping flaps observed
    have keeps := (behavior_observe observed).trans flaps
    obtain ⟨visible, pairs⟩ := ih keeps
    refine ⟨List.forall_mem_cons.mpr ⟨nofun, visible⟩, .cons ?_ pairs⟩
    · intro read member ⟨status, answered, processed⟩
      cases answered
      exact rest.taken_back keeps (once processed).2 read member
  | failed rest ih =>
    obtain ⟨visible, pairs⟩ := ih flaps
    refine ⟨List.forall_mem_cons.mpr ⟨nofun, visible⟩, .cons ?_ pairs⟩
    · intro read _ ⟨status, answered, _⟩
      cases answered

end Entry

/-- The outcomes that a way of treating a record leaves open for the check of it. -/
def Behavior.Admits (behavior : Behavior) (kind : Kind) (outcome : Outcome) : Prop :=
  match behavior with
  | .honor _ => True
  | .eager => kind = .scheduled → outcome = .failed (.processedEarly (Entry.statusOf true))
  | .stalled => ∃ waited observations,
    outcome = .failed (.timedOut (some .pending) waited observations)
  | .invisible =>
    if kind = .scheduled then outcome = .failed .notVisible
    else ∃ waited observations, outcome = .failed (.timedOut none waited observations)
  | .failing reason => ∃ waited observations,
    outcome = .failed (.timedOut (some ⟨false, 3, some reason⟩) waited observations)
  | .flapping _ =>
    (∃ status, outcome = .failed (.regressed status)) ∨
      (∃ last waited observations, outcome = .failed (.timedOut last waited observations)) ∨
      (kind = .scheduled ∧ ∃ status, outcome = .failed (.processedEarly status))

theorem Entry.Shows.admits {scenario : Scenario} {entry : Entry} {reads : List Read}
    {now ended : Instant} {outcome : Outcome} (shows : entry.Shows reads)
    (evidence : scenario.Evidence now reads ended outcome) :
    entry.behavior.Admits scenario.kind outcome := by
  have constant : ∀ {answer}, (∀ now, entry.observe now = some (answer, entry)) →
      ∀ read ∈ reads, read.answer = .ok answer := by
    intro answer observes read member
    obtain ⟨status, answered⟩ := evidence.answered read member
    rw [answered, shows.constant observes read member status answered]
  cases treats : entry.behavior with
  | honor => trivial
  | eager =>
    have observes : ∀ now, entry.observe now = some (some (statusOf true), entry) := by
      simp [observe, treats]
    exact evidence.early_of_processed (constant observes) rfl
  | stalled =>
    have observes : ∀ now, entry.observe now = some (some (statusOf false), entry) := by
      simp [observe, treats]
    exact evidence.timedOut_of_constant (constant observes) rfl
  | invisible =>
    have observes : ∀ now, entry.observe now = some (none, entry) := by simp [observe, treats]
    exact evidence.outcome_of_hidden (constant observes)
  | failing reason =>
    have observes : ∀ now, entry.observe now = some (some (failedStatus reason), entry) := by
      simp [observe, treats]
    exact evidence.timedOut_of_constant (constant observes) rfl
  | flapping => exact evidence.fails_of_once (shows.seenOnce treats)

end DeliveryCheck.Worker
