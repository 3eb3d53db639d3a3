import DeliveryCheck.Proofs.Scenario.Phases

namespace DeliveryCheck.Scenario

variable (scenario : Scenario)

/-- The reads of the poll and the confirming read, from the start of the poll to the verdict. -/
inductive Judged : Instant → List Read → Instant → Outcome → Prop where
  | timedOut {now poll reads ended outcome} (begun : Poll.start scenario.pace now = .ok poll)
    (trail : Poll.Trail Status.processed Poll.mostReads poll now reads ended (some (.ok outcome)))
    (unsatisfied : outcome.satisfied = false) :
    Judged now reads ended
      (.failed (.timedOut outcome.last outcome.elapsed outcome.observations))
  | confirmed {now poll reads finish outcome ended status}
    (begun : Poll.start scenario.pace now = .ok poll)
    (trail : Poll.Trail Status.processed Poll.mostReads poll now reads finish (some (.ok outcome)))
    (satisfied : outcome.satisfied) (later : finish ≤ ended) :
    Judged now (reads ++ [⟨finish, ended, .ok status⟩]) ended (confirmed status)

/-- All reads of a check, from the end of the insertion to the outcome. -/
inductive Evidence : Instant → List Read → Instant → Outcome → Prop where
  | direct {now reads ended outcome} (unscheduled : scenario.kind ≠ .scheduled)
    (judged : scenario.Judged now reads ended outcome) : Evidence now reads ended outcome
  | hidden {now ended} (scheduled : scenario.kind = .scheduled) (later : now ≤ ended) :
    Evidence now [⟨now, ended, .ok none⟩] ended (.failed .notVisible)
  | early {now ended status} (scheduled : scenario.kind = .scheduled) (later : now ≤ ended)
    (processed : status.processed) :
    Evidence now [⟨now, ended, .ok (some status)⟩] ended (.failed (.processedEarly status))
  | pending {now seen status reads ended outcome} (scheduled : scenario.kind = .scheduled)
    (later : now ≤ seen) (pending : status.processed = false)
    (judged : scenario.Judged (seen.after scenario.wait) reads ended outcome) :
    Evidence now (⟨now, seen, .ok (some status)⟩ :: reads) ended outcome

variable {scenario} {start now ended : Instant} {id : Uuid} {identity : Nat → Identity}
  {story : List Event} {result : ScenarioResult}

theorem Awaited.judged {reads : List Read} {polled : Except Error PollOutcome}
    {confirming : Option Read} {outcome : Outcome}
    (awaited : scenario.Awaited now reads polled confirming ended (.ok outcome)) :
    scenario.Judged now (reads ++ confirming.toList) ended outcome := by
  generalize reached : Except.ok outcome = verdict at awaited
  cases awaited with
  | refused | failed => cases reached
  | timedOut begun trail unsatisfied =>
    cases reached
    rw [Option.toList_none, List.append_nil]
    exact .timedOut begun trail unsatisfied
  | @confirmed _ _ _ _ _ answer begun trail satisfied later =>
    cases answer with
    | error fault => cases reached
    | ok status =>
      cases reached
      exact .confirmed begun trail satisfied later

theorem Watched.evidence {watch : Watch} {outcome : Outcome}
    (watched : scenario.Watched now watch ended (.ok outcome)) :
    scenario.Evidence now watch.reads ended outcome := by
  cases watched with
  | direct unscheduled awaited => exact .direct unscheduled awaited.judged
  | hidden scheduled later => exact .hidden scheduled later
  | early scheduled later processed => exact .early scheduled later processed
  | pending scheduled later pending awaited => exact .pending scheduled later pending awaited.judged

theorem await_course
    (course : (scenario.await start id now).Course identity now story ended (some (.ok result))) :
    ∃ reads outcome, scenario.Judged now reads ended outcome ∧
      story.filter Event.isCall = reads.map (Read.event id) ∧
      result = scenario.result start id outcome ended := by
  obtain ⟨reads, _, confirming, verdict, awaited, calls, same⟩ := await_goes course
  cases verdict with
  | error fault => cases same
  | ok outcome =>
    cases same
    exact ⟨_, outcome, awaited.judged, calls, rfl⟩

theorem check_course {wall : Timestamp}
    (course : (scenario.check start wall).Course identity now story ended (some (.ok result))) :
    ∃ make instant number id reads outcome, scenario.record? wall = .ok make ∧ now ≤ instant ∧
      story.filter Event.isCall =
        .inserted now instant number (make (identity number)) (.ok id) ::
          reads.map (Read.event id) ∧
      scenario.Evidence instant reads ended outcome ∧
      result = scenario.result start id outcome ended := by
  rcases check_goes course with
    ⟨_, _, _, same⟩ | ⟨make, instant, number, made, later, ⟨_, _, same⟩ | goes⟩
  · cases same
  · cases same
  · obtain ⟨id, watch, verdict, watched, calls, same⟩ := goes
    cases verdict with
    | error fault => cases same
    | ok outcome =>
      cases same
      exact ⟨make, instant, number, id, _, outcome, made, later, calls, watched.evidence, rfl⟩

end DeliveryCheck.Scenario
