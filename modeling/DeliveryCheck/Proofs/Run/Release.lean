import DeliveryCheck.Proofs.Report.Agreement
import DeliveryCheck.Proofs.Run.Checked
import DeliveryCheck.Proofs.Run.Moves
import DeliveryCheck.Proofs.Run.Order
import DeliveryCheck.Proofs.Run.Story

namespace DeliveryCheck

variable {σ : Type}

/-- A count of the closings of a store, which no call changes. -/
structure Store.CountsClosings (store : Store σ) (closings : σ → Nat) : Prop where
  insert : ∀ record now state, closings (store.insert record now state).2 = closings state
  read : ∀ id now state, closings (store.read id now state).2 = closings state
  inserted : ∀ record began accepted ended state,
    closings ((store.insert record began accepted).1.settle ended state).2 = closings state
  answered : ∀ id began accepted ended state,
    closings ((store.read id began accepted).1.settle ended state).2 = closings state
  close : ∀ state, closings (store.close state) = closings state + 1

def Store.counted (store : Store σ) : Store (σ × Nat) where
  insert record now state :=
    let (call, later) := store.insert record now state.1
    (⟨call.takes, fun ended state =>
      let (answer, later) := call.settle ended state.1
      (answer, later, state.2)⟩, later, state.2)
  read id now state :=
    let (call, later) := store.read id now state.1
    (⟨call.takes, fun ended state =>
      let (answer, later) := call.settle ended state.1
      (answer, later, state.2)⟩, later, state.2)
  close state := (store.close state.1, state.2 + 1)

theorem Store.counted_counts (store : Store σ) : store.counted.CountsClosings Prod.snd where
  insert _ _ _ := rfl
  read _ _ _ := rfl
  inserted _ _ _ _ _ := rfl
  answered _ _ _ _ _ := rfl
  close _ := rfl

theorem World.Moves.closings {setting : Setting σ} {world after : World σ} {closings : σ → Nat}
    (counts : setting.store.CountsClosings closings) (moves : World.Moves setting world after) :
    closings after.state = closings world.state := by
  induction moves with
  | refl => rfl
  | tail _ move ih =>
    rw [← ih]
    cases move with
    | wait | note => rfl
    | beginInsert => exact counts.insert _ _ _
    | beginRead => exact counts.read _ _ _
    | settleInsert => exact counts.inserted _ _ _ _ _
    | settleRead => exact counts.answered _ _ _ _ _

namespace Run

open Report

/-- How a run, the report around it and the store of a setting go together: `ran` is how the run ended,
`done` how all of it did. -/
structure Released (setting : Setting σ) (report : ReportOptions) (planned : Nat) (state : σ)
    (ran : Except Error Unit × World σ) (done : Except Error (List ScenarioResult) × World σ)
    (story : List Event) (results : List ScenarioResult) : Prop where
  told : Story (announcement report) story results
  ran_history : ran.2.history.reverse = (opening report).map Event.printed ++ story
  done_history : done.2.history.reverse = (opening report).map Event.printed ++ story ++
    .closed ran.2.now :: (closing report planned results ran.1).map Event.printed
  closed_once : done.2.history.reverse.filter Event.closes = [.closed ran.2.now]
  called_before : done.2.calls = story.filter Event.isCall
  state_eq : done.2.state = setting.store.close ran.2.state
  closings : ∀ closings, setting.store.CountsClosings closings →
    closings ran.2.state = closings state ∧ closings done.2.state = closings state + 1
  returned : done.1 = ran.1.map fun _ => results
  reported : ran.2.reported = results ∧ done.2.reported = results
  aborted_document : ∀ fault, ran.1 = .error fault → report.json = true →
    ∃ line document, done.2.printed = [line] ∧ Json.read? line = some document ∧
      Documents False results document
  aborted_lines : ∀ fault, ran.1 = .error fault → report.json = false →
    done.2.printed = headerLines report.colours ++ results.map (resultLine report.colours) ++
      [header report.colours rule, Style.boldFail.paint report.colours
        ("Run aborted after " ++ Decimal.natural results.length ++ " of " ++ Decimal.natural planned ++
          " scenarios (" ++ Decimal.natural (countFailed results) ++ " failed)")]

section

variable (setting : Setting σ) (options : RunOptions) (report : ReportOptions)
  (scenarios : List Scenario) (now : Instant) (state : σ) (issued : Nat)

theorem ranWithin_moves :
    World.Moves setting ⟨now, state, issued, []⟩
      (ranWithin setting options report scenarios now state issued).2 :=
  (print_moves setting (opening report) _).trans (all_moves setting _ options scenarios _)

theorem state_execute :
    (execute setting options report scenarios ⟨now, state, issued, []⟩).2.state =
      setting.store.close (ranWithin setting options report scenarios now state issued).2.state := by
  rw [execute_snd, World.print_eq]
  rfl

variable {setting} in
theorem closings_ranWithin {closings : σ → Nat} (counts : setting.store.CountsClosings closings) :
    closings (ranWithin setting options report scenarios now state issued).2.state =
      closings state :=
  (ranWithin_moves setting options report scenarios now state issued).closings counts

theorem closings_counted :
    (execute ⟨setting.store.counted, setting.identity, setting.wall⟩ options report scenarios
      ⟨now, (state, 0), issued, []⟩).2.state.2 = 1 := by
  let counted : Setting (σ × Nat) := ⟨setting.store.counted, setting.identity, setting.wall⟩
  have counts : counted.store.CountsClosings Prod.snd := setting.store.counted_counts
  rw [state_execute]
  have still := closings_ranWithin options report scenarios now (state, 0) issued counts
  exact (counts.close _).trans (congrArg (· + 1) still)

end

namespace Sample

def lost : Playback.State :=
  { insertions := [none, some "down"], scripts := [[{ reply := .ok (some ⟨true, 0, none⟩) }]] }

end Sample

end Run

end DeliveryCheck
