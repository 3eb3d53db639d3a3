import DeliveryCheck.Run.World
/-!
A procedure under way among others. Between its steps it waits for an instant, either resting or with
a call in flight. Each step leaves less of the procedure, so tasks carried out together all finish.
-/

namespace DeliveryCheck

inductive Task (σ α : Type) where
  | finished (result : α)
  | ready (wake : Instant) (procedure : Procedure α)
  | inserting (began wake : Instant) (number : Nat) (record : Record) (call : Call σ Uuid)
      (next : Instant → Except Error Uuid → Procedure α)
  | reading (began wake : Instant) (id : Uuid) (call : Call σ (Option Status))
      (next : Instant → Except Error (Option Status) → Procedure α)

/-- The insertion of the record for the next identity, as far as its acceptance by the store. -/
def World.beginInsert {σ : Type} (world : World σ) (setting : Setting σ)
    (make : Identity → Record) : Record × Call σ Uuid × World σ :=
  let record := make (setting.identity world.issued)
  let (call, state) := setting.store.insert record world.now world.state
  (record, call, { world with state := state, issued := world.issued + 1 })

def World.beginRead {σ : Type} (world : World σ) (setting : Setting σ) (id : Uuid) :
    Call σ (Option Status) × World σ :=
  let (call, state) := setting.store.read id world.now world.state
  (call, world.withState state)

def World.settle {σ α : Type} (world : World σ) (call : Call σ α) (ended : Instant)
    (event : Except Error α → Event) : Except Error α × World σ :=
  let (answer, state) := call.settle ended world.state
  (answer, ((world.moveTo ended).withState state).note (event answer))

namespace Task

variable {σ α : Type}

def result? : Task σ α → Option α
  | finished result => some result
  | _ => none

def wake? : Task σ α → Option Instant
  | finished _ => none
  | ready wake _ => some wake
  | inserting _ wake .. => some wake
  | reading _ wake .. => some wake

def begin (setting : Setting σ) (world : World σ) : Procedure α → Task σ α × World σ
  | .done result => (finished result, world)
  | .enter mark next => (ready world.now next, world.note (.entered mark))
  | .pause length next =>
    let wake := world.now.after length
    (ready wake (next wake), world)
  | .insert make next =>
    let (record, call, waiting) := world.beginInsert setting make
    (inserting world.now (world.now.after call.takes) world.issued record call next, waiting)
  | .read id next =>
    let (call, waiting) := world.beginRead setting id
    (reading world.now (world.now.after call.takes) id call next, waiting)

def step (setting : Setting σ) (world : World σ) : Task σ α → Task σ α × World σ
  | finished result => (finished result, world)
  | ready _ procedure => begin setting world procedure
  | inserting began _ number record call next =>
    let (answer, later) := world.settle call world.now (.inserted began world.now number record)
    (ready world.now (next world.now answer), later)
  | reading began _ id call next =>
    let (answer, later) := world.settle call world.now (.read began world.now id)
    (ready world.now (next world.now answer), later)

/-- One task is what a step can make of another. -/
inductive Follows : Task σ α → Task σ α → Prop where
  | done {result wake} : Follows (finished result) (ready wake (.done result))
  | enter {mark wake later next} : Follows (ready later next) (ready wake (.enter mark next))
  | pause {length wake later instant next} :
    Follows (ready later (next instant)) (ready wake (.pause length next))
  | insert {make wake began later number record call next} :
    Follows (inserting began later number record call next) (ready wake (.insert make next))
  | read {id wake began later call next} :
    Follows (reading began later id call next) (ready wake (.read id next))
  | inserted {began wake number record call next later instant answer} :
    Follows (ready later (next instant answer)) (inserting began wake number record call next)
  | answered {began wake id call next later instant answer} :
    Follows (ready later (next instant answer)) (reading began wake id call next)

theorem acc_finished (result : α) : Acc Follows (finished (σ := σ) result) := ⟨_, by rintro _ ⟨⟩⟩

theorem acc_ready (procedure : Procedure α) (wake : Instant) :
    Acc Follows (ready (σ := σ) wake procedure) := by
  induction procedure generalizing wake with
  | done result => exact ⟨_, by rintro _ ⟨⟩; exact acc_finished result⟩
  | enter mark next ih => exact ⟨_, by rintro _ ⟨⟩; exact ih _⟩
  | pause length next ih => exact ⟨_, by rintro _ ⟨⟩; exact ih _ _⟩
  | insert make next ih => exact ⟨_, by rintro _ ⟨⟩; exact ⟨_, by rintro _ ⟨⟩; exact ih _ _ _⟩⟩
  | read id next ih => exact ⟨_, by rintro _ ⟨⟩; exact ⟨_, by rintro _ ⟨⟩; exact ih _ _ _⟩⟩

theorem acc_follows (task : Task σ α) : Acc Follows task := by
  cases task with
  | finished result => exact acc_finished result
  | ready wake procedure => exact acc_ready procedure wake
  | inserting began wake number record call next =>
    exact ⟨_, by rintro _ ⟨⟩; exact acc_ready _ _⟩
  | reading began wake id call next => exact ⟨_, by rintro _ ⟨⟩; exact acc_ready _ _⟩

theorem begin_follows (setting : Setting σ) (world : World σ) (procedure : Procedure α)
    (wake : Instant) : Follows (begin setting world procedure).1 (ready wake procedure) := by
  cases procedure <;> constructor

theorem step_follows (setting : Setting σ) (world : World σ) {task : Task σ α}
    (waits : task.wake? ≠ none) : Follows (step setting world task).1 task := by
  cases task with
  | finished result => exact absurd rfl waits
  | ready wake procedure => exact begin_follows setting world procedure wake
  | inserting => constructor
  | reading => constructor

end Task

/-- One list of tasks is what a step of one of them makes of another list. -/
inductive TasksFollow {σ α : Type} : List (Task σ α) → List (Task σ α) → Prop where
  | head {later task rest} (follows : Task.Follows later task) :
    TasksFollow (later :: rest) (task :: rest)
  | tail {task later rest} (follow : TasksFollow later rest) :
    TasksFollow (task :: later) (task :: rest)

namespace TasksFollow

variable {σ α : Type}

theorem acc_cons {task : Task σ α} {rest : List (Task σ α)} (first : Acc Task.Follows task)
    (others : Acc TasksFollow rest) : Acc TasksFollow (task :: rest) := by
  induction first generalizing rest with
  | intro task _ ihTask =>
    induction others with
    | intro rest accRest ihRest =>
      refine ⟨_, ?_⟩
      rintro _ (follows | follow)
      · exact ihTask _ follows ⟨_, accRest⟩
      · exact ihRest _ follow

theorem acc (tasks : List (Task σ α)) : Acc TasksFollow tasks := by
  induction tasks with
  | nil => exact ⟨_, by rintro _ ⟨⟩⟩
  | cons task rest ih => exact acc_cons task.acc_follows ih

end TasksFollow

end DeliveryCheck
