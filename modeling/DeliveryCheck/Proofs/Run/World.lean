import DeliveryCheck.Procedure.Task

namespace DeliveryCheck

namespace Event

def isCall : Event → Bool
  | .inserted .. | .read .. => true
  | .entered _ | .reported .. | .printed _ | .closed _ => false

def stores (id : Uuid) : Event → Bool
  | .inserted _ _ _ _ (.ok stored) => stored = id
  | _ => false

def reads (id : Uuid) : Event → Bool
  | .read _ _ other _ => other = id
  | _ => false

def isAbout (id : Uuid) (event : Event) : Bool := event.stores id || event.reads id

theorem isCall_of_isAbout {id : Uuid} {event : Event} (about : event.isAbout id) : event.isCall := by
  cases event with
  | inserted | read => rfl
  | entered | reported | printed | closed => cases about

theorem filter_isAbout (id : Uuid) (story : List Event) :
    story.filter (isAbout id) = (story.filter isCall).filter (isAbout id) := by
  rw [List.filter_filter]
  apply List.filter_congr
  intro event _
  cases about : event.isAbout id with
  | false => rfl
  | true => rw [isCall_of_isAbout about, Bool.and_self]

end Event

namespace World

variable {σ α : Type} (world : World σ)

@[simp] theorem now_note (event : Event) : (world.note event).now = world.now := rfl

@[simp] theorem state_note (event : Event) : (world.note event).state = world.state := rfl

@[simp] theorem history_note (event : Event) :
    (world.note event).history = event :: world.history := rfl

@[simp] theorem now_moveTo (now : Instant) : (world.moveTo now).now = now := rfl

@[simp] theorem state_moveTo (now : Instant) : (world.moveTo now).state = world.state := rfl

@[simp] theorem history_moveTo (now : Instant) : (world.moveTo now).history = world.history := rfl

variable (setting : Setting σ)

@[simp] theorem state_beginInsert (make : Identity → Record) :
    (world.beginInsert setting make).2.2.state =
      (setting.store.insert (make (setting.identity world.issued)) world.now world.state).2 := rfl

@[simp] theorem now_beginInsert (make : Identity → Record) :
    (world.beginInsert setting make).2.2.now = world.now := rfl

@[simp] theorem history_beginInsert (make : Identity → Record) :
    (world.beginInsert setting make).2.2.history = world.history := rfl

theorem call_beginRead (id : Uuid) :
    (world.beginRead setting id).1 = (setting.store.read id world.now world.state).1 := rfl

@[simp] theorem state_beginRead (id : Uuid) :
    (world.beginRead setting id).2.state = (setting.store.read id world.now world.state).2 := rfl

@[simp] theorem now_beginRead (id : Uuid) : (world.beginRead setting id).2.now = world.now := rfl

@[simp] theorem history_beginRead (id : Uuid) :
    (world.beginRead setting id).2.history = world.history := rfl

variable (call : Call σ α) (ended : Instant) (event : Except Error α → Event)

@[simp] theorem state_settle :
    (world.settle call ended event).2.state = (call.settle ended world.state).2 := rfl

@[simp] theorem now_settle : (world.settle call ended event).2.now = ended := rfl

@[simp] theorem history_settle :
    (world.settle call ended event).2.history =
      event (world.settle call ended event).1 :: world.history := rfl

theorem print_eq (lines : List String) :
    world.print lines =
      { world with history := (lines.map Event.printed).reverse ++ world.history } := by
  induction lines generalizing world with
  | nil => rfl
  | cons line rest ih =>
    rw [List.map_cons, List.reverse_cons, List.append_assoc]
    exact ih (world.note (.printed line))

theorem report_eq (announce : ScenarioResult → List String) (result : ScenarioResult) :
    world.report announce result =
      { world with
        history := (.reported world.now result :: (announce result).map Event.printed).reverse ++
          world.history } := by
  rw [List.reverse_cons, List.append_assoc]
  exact print_eq (world.note (.reported world.now result)) (announce result)

theorem history_report (announce : ScenarioResult → List String) (result : ScenarioResult) :
    (world.report announce result).history =
      (.reported world.now result :: (announce result).map Event.printed).reverse ++
        world.history := by rw [report_eq]

/-- The events added to the history since an earlier world, in their order. -/
def since (after world : World σ) : List Event :=
  (after.history.take (after.history.length - world.history.length)).reverse

theorem since_eq {world after : World σ} {story : List Event}
    (history : after.history = story.reverse ++ world.history) : after.since world = story := by
  rw [since, history, List.length_append, Nat.add_sub_cancel, List.take_left, List.reverse_reverse]

theorem story_unique {world after : World σ} {one two : List Event}
    (first : after.history = one.reverse ++ world.history)
    (second : after.history = two.reverse ++ world.history) : one = two := by
  rw [first] at second
  exact List.reverse_inj.mp (List.append_cancel_right second)

end World

theorem Instant.le_after (start : Instant) (length : Duration) : start ≤ start.after length := by
  unfold after after?
  split <;> simp

theorem Instant.add_le_after (start : Instant) {length : Duration} (short : length.nanos ≤ farAway) :
    start + length.nanos ≤ start.after length := by
  unfold after after?
  split
  · exact Nat.le_refl _
  · exact Nat.add_le_add_left short start

end DeliveryCheck
