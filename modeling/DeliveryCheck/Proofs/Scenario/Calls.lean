import DeliveryCheck.Run.All
import DeliveryCheck.Proofs.Procedure.Together
import DeliveryCheck.Proofs.Scenario.Anatomy

namespace DeliveryCheck

variable {id : Uuid}

namespace Scenario

variable {scenario : Scenario} {start now : Instant}

theorem Stage.onlyReads {procedure : Procedure (Except Error ScenarioResult)}
    (stage : Stage scenario start id procedure) : procedure.OnlyReads id := by
  induction stage with
  | refuses | resolves => trivial
  | enters _ _ ih => exact ih
  | pauses _ ih => exact ih
  | reads stops _ ih =>
    refine ⟨rfl, fun now answer => ?_⟩
    cases answer with
    | error fault =>
      rw [stops]
      trivial
    | ok status => exact ih now status

variable {identity : Nat → Identity} {wall : Timestamp} {story : List Event}
  {ended : Instant} {result : Option (Except Error ScenarioResult)}

theorem stores_of_isAbout
    (course : (scenario.check start wall).Course identity now story ended result) :
    ∀ event ∈ story, event.isAbout id → ∃ stored ∈ story, stored.stores id := by
  intro event member about
  unfold check at course
  split at course
  · rw [course.nil_of_done] at member
    cases member
  cases course with
  | cut => cases member
  | insert later course =>
    refine ⟨_, List.mem_cons_self, ?_⟩
    rcases List.mem_cons.mp member with rfl | behind
    · simpa [Event.isAbout, Event.reads] using about
    dsimp only at course
    split at course
    next =>
      rw [course.nil_of_done] at behind
      cases behind
    next stored =>
      have call := Event.isCall_of_isAbout about
      obtain ⟨began, instant, answer, rfl⟩ :=
        (scenario.follow_stage start _ _).onlyReads.calls course event behind call
      simpa [Event.isAbout, Event.stores, Event.reads] using about

end Scenario

def Task.Life.IsCheck (identity : Nat → Identity) (start : Instant) (wall : Timestamp)
    (life : Task.Life (Except Error ScenarioResult)) : Prop :=
  ∃ (scenario : Scenario) (ended : Instant),
    (scenario.check start wall).Course identity start life.1 ended life.2

theorem Task.filter_isAbout_eq {identity : Nat → Identity} {start : Instant} {wall : Timestamp}
    {earlier others : List (Task.Life (Except Error ScenarioResult))}
    {own : Task.Life (Except Error ScenarioResult)} {told : List Event}
    (checks : ∀ life ∈ earlier ++ own :: others, life.IsCheck identity start wall)
    (whole : Interleaved ((earlier ++ own :: others).map Prod.fst) told)
    (once : told.countP (Event.stores id) ≤ own.1.countP (Event.stores id)) :
    told.filter (Event.isAbout id) = own.1.filter (Event.isAbout id) := by
  rw [List.map_append, List.map_cons] at whole
  apply whole.filter_eq
  intro story listed event member about
  have stored : ∃ stored ∈ story, stored.stores id := by
    rw [← List.map_append] at listed
    obtain ⟨other, otherListed, rfl⟩ := List.mem_map.mp listed
    have inside : other ∈ earlier ++ own :: others := by
      rcases List.mem_append.mp otherListed with before | after
      · exact List.mem_append_left _ before
      · exact List.mem_append_right _ (List.mem_cons_of_mem _ after)
    obtain ⟨scenario, ended, course⟩ := checks other inside
    exact Scenario.stores_of_isAbout course event member about
  obtain ⟨stored, member, stores⟩ := stored
  exact whole.elsewhere once story listed stored member stores

theorem Run.lives_check {σ : Type} {setting : Setting σ} {scenarios : List Scenario}
    {world : World σ} {lives : List (Task.Life (Except Error ScenarioResult))}
    (live : Task.Lives (σ := σ) setting.identity
      (scenarios.map fun scenario => .ready world.now (begin setting world scenario)) lives) :
    ∀ life ∈ lives, life.IsCheck setting.identity world.now (setting.wall world.now) := by
  intro life listed
  obtain ⟨task, tasked, course⟩ := live.of_mem listed
  obtain ⟨scenario, _, rfl⟩ := List.mem_map.mp tasked
  obtain ⟨ended, course⟩ := course.of_ready
  exact ⟨scenario, ended, course⟩

end DeliveryCheck
