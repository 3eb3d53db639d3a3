import DeliveryCheck.Proofs.Procedure.Together
/-!
Procedures that keep an appointment. Such a procedure pauses no longer than until an instant that is due,
and a call of the store puts off that instant by the time it takes. If the calls leave enough time before
a limit, the limit does not change how the procedure is carried out, alone or among others.
-/

namespace DeliveryCheck

namespace Event

/-- How long a call of the store took, if it began by an instant. -/
def takesBy (bound : Instant) : Event → Nat
  | .inserted began ended .. | .read began ended .. => if began ≤ bound then ended - began else 0
  | .entered _ | .reported .. | .printed _ | .closed _ => 0

/-- The time in those calls of a story that began by an instant. -/
def storeTime (bound : Instant) : List Event → Nat
  | [] => 0
  | event :: story => event.takesBy bound + storeTime bound story

variable {bound : Instant}

theorem storeTime_nil : storeTime bound [] = 0 := rfl

theorem storeTime_cons (event : Event) (story : List Event) :
    storeTime bound (event :: story) = event.takesBy bound + storeTime bound story := rfl

theorem storeTime_append (story rest : List Event) :
    storeTime bound (story ++ rest) = storeTime bound story + storeTime bound rest := by
  induction story with
  | nil => exact (Nat.zero_add _).symm
  | cons event story ih => rw [List.cons_append, storeTime, storeTime, ih, Nat.add_assoc]

end Event

open Event (storeTime)

variable {σ α : Type} {setting : Setting σ} {world : World σ} {due bound limit : Instant}
  {story : List Event}

namespace Procedure

variable {procedure : Procedure α}

/-- Every pause ends by the instant that is due then, whatever the store answers. -/
def Timely : Procedure α → (now due : Instant) → Prop
  | .done _, _, _ => True
  | .enter _ next, now, due => Timely next now due
  | .pause length next, now, due =>
    now + length.nanos ≤ due ∧ Timely (next (now + length.nanos)) (now + length.nanos) due
  | .insert _ next, now, due =>
    ∀ took answer, Timely (next (now + took) answer) (now + took) (due + took)
  | .read _ next, now, due =>
    ∀ took answer, Timely (next (now + took) answer) (now + took) (due + took)

theorem Timely.insert_next {make : Identity → Record}
    {next : Instant → Except Error Uuid → Procedure α} {now ended : Instant}
    (timely : (insert make next).Timely now due) (later : now ≤ ended)
    (answer : Except Error Uuid) : (next ended answer).Timely ended (due + (ended - now)) := by
  have follows := timely (ended - now) answer
  rwa [Nat.add_sub_cancel' later] at follows

theorem Timely.read_next {id : Uuid} {next : Instant → Except Error (Option Status) → Procedure α}
    {now ended : Instant} (timely : (read id next).Timely now due) (later : now ≤ ended)
    (answer : Except Error (Option Status)) :
    (next ended answer).Timely ended (due + (ended - now)) := by
  have follows := timely (ended - now) answer
  rwa [Nat.add_sub_cancel' later] at follows

theorem le_put_off {now due ended : Nat} (punctual : now ≤ due) (later : now ≤ ended) :
    ended ≤ due + (ended - now) := by omega

theorem isCut_of_le {wake : Instant} (inTime : wake ≤ limit) : isCut (some limit) wake = false := by
  simpa [isCut] using inTime

theorem Timely.alone_eq (timely : procedure.Timely world.now due) (punctual : world.now ≤ due)
    (fits : bound < Instant.limit) (noticed : bound ≤ limit)
    (told : (procedure.alone setting none world).2.history = story.reverse ++ world.history)
    (within : due + storeTime bound story ≤ bound) :
    procedure.alone setting (some limit) world = procedure.alone setting none world ∧
      (procedure.alone setting none world).2.now ≤ due + storeTime bound story := by
  have dueInTime : due ≤ bound := Nat.le_trans (Nat.le_add_right ..) within
  induction procedure generalizing world due story with
  | done result => exact ⟨rfl, Nat.le_trans punctual (Nat.le_add_right ..)⟩
  | enter mark next ih =>
    obtain ⟨rest, _, onward⟩ := alone_course setting none next (world.note (.entered mark))
    have split : (alone setting none (.enter mark next) world).2.history =
        (Event.entered mark :: rest).reverse ++ world.history := by
      rw [alone, onward, World.history_note, List.reverse_cons, List.append_assoc]
      rfl
    obtain rfl := World.story_unique told split
    have silent : storeTime bound (.entered mark :: rest) = storeTime bound rest :=
      (Event.storeTime_cons ..).trans (Nat.zero_add _)
    rw [silent] at within ⊢
    exact ih timely punctual onward within dueInTime
  | pause length next ih =>
    obtain ⟨ends, follows⟩ := timely
    have early : world.now + length.nanos ≤ bound := Nat.le_trans ends dueInTime
    have wakes : world.now.after length = world.now + length.nanos :=
      Instant.after_of_lt (Nat.lt_of_le_of_lt early fits)
    have inTime := isCut_of_le (Nat.le_trans early noticed)
    rw [alone, wakes] at told ⊢
    rw [alone, wakes]
    simp only [inTime]
    have starts : (next (world.now + length.nanos)).Timely
        (world.moveTo (world.now + length.nanos)).now due := follows
    exact ih _ starts ends told within dueInTime
  | insert make next ih =>
    obtain ⟨ended, number, answer, later, after, rfl, noted, goes⟩ :=
      alone_insert_goes setting make next world
    obtain ⟨rest, _, onward⟩ := alone_course setting none (next later.now answer) later
    rw [(goes none).1 rfl] at told ⊢
    rw [noted] at onward
    have split : story = .inserted world.now later.now number (make (setting.identity number)) answer ::
        rest := World.story_unique told (by rw [onward]; simp)
    subst split
    rw [Event.storeTime_cons, Event.takesBy, if_pos (Nat.le_trans punctual dueInTime),
      ← Nat.add_assoc] at within ⊢
    have putOff : due + (later.now - world.now) ≤ bound :=
      Nat.le_trans (Nat.le_add_right ..) within
    have ends := le_put_off punctual after
    rw [(goes _).1 (isCut_of_le (Nat.le_trans ends (Nat.le_trans putOff noticed)))]
    exact ih _ _ (timely.insert_next after answer) ends (by rw [onward, noted]) within putOff
  | read id next ih =>
    obtain ⟨ended, answer, later, after, rfl, noted, goes⟩ := alone_read_goes setting id next world
    obtain ⟨rest, _, onward⟩ := alone_course setting none (next later.now answer) later
    rw [(goes none).1 rfl] at told ⊢
    rw [noted] at onward
    have split : story = .read world.now later.now id answer :: rest :=
      World.story_unique told (by rw [onward]; simp)
    subst split
    rw [Event.storeTime_cons, Event.takesBy, if_pos (Nat.le_trans punctual dueInTime),
      ← Nat.add_assoc] at within ⊢
    have putOff : due + (later.now - world.now) ≤ bound :=
      Nat.le_trans (Nat.le_add_right ..) within
    have ends := le_put_off punctual after
    rw [(goes _).1 (isCut_of_le (Nat.le_trans ends (Nat.le_trans putOff noticed)))]
    exact ih _ _ (timely.read_next after answer) ends (by rw [onward, noted]) within putOff

end Procedure

namespace Task

variable {task : Task σ α}

/-- A task that wakes by the instant that is due, or has a call in flight that began by then. -/
def Timely (due : Instant) : Task σ α → Prop
  | finished _ => True
  | ready wake procedure => wake ≤ due ∧ procedure.Timely wake due
  | inserting began wake _ _ _ next =>
    began ≤ due ∧ began ≤ wake ∧ ∀ answer, (next wake answer).Timely wake (due + (wake - began))
  | reading began wake _ _ next =>
    began ≤ due ∧ began ≤ wake ∧ ∀ answer, (next wake answer).Timely wake (due + (wake - began))

/-- A task that has the time for the calls of its story. -/
def HasTime (bound : Instant) (story : List Event) (task : Task σ α) : Prop :=
  ∃ due, task.Timely due ∧ due + storeTime bound story ≤ bound

theorem hasTime_begin {procedure : Procedure α} (timely : procedure.Timely world.now due)
    (punctual : world.now ≤ due) (fits : bound < Instant.limit)
    (within : due + storeTime bound story ≤ bound) :
    (begin setting world procedure).1.HasTime bound story := by
  refine ⟨due, ?_, within⟩
  cases procedure with
  | done result => trivial
  | enter mark next => exact ⟨punctual, timely⟩
  | pause length next =>
    obtain ⟨ends, follows⟩ := timely
    have early := Nat.le_trans ends (Nat.le_trans (Nat.le_add_right ..) within)
    have wakes : world.now.after length = world.now + length.nanos :=
      Instant.after_of_lt (Nat.lt_of_le_of_lt early fits)
    rw [begin, wakes]
    exact ⟨ends, follows⟩
  | insert make next =>
    have later := world.now.le_after (world.beginInsert setting make).2.1.takes
    exact ⟨punctual, later, fun answer => timely.insert_next later answer⟩
  | read id next =>
    have later := world.now.le_after (world.beginRead setting id).1.takes
    exact ⟨punctual, later, fun answer => timely.read_next later answer⟩

theorem HasTime.step {events : List Event} (hasTime : task.HasTime bound (events ++ story))
    (wakes : task.wake? = some world.now) (fits : bound < Instant.limit)
    (told : (step setting world task).2.history = events.reverse ++ world.history) :
    world.now ≤ bound ∧ (step setting world task).1.HasTime bound story := by
  obtain ⟨due, timely, within⟩ := hasTime
  have dueInTime := Nat.le_trans (Nat.le_add_right due _) within
  rw [Event.storeTime_append] at within
  cases task with
  | finished result => cases wakes
  | ready wake procedure =>
    cases wakes
    obtain ⟨punctual, timely⟩ := timely
    have onward : due + storeTime bound story ≤ bound :=
      Nat.le_trans (Nat.add_le_add_left (Nat.le_add_left ..) due) within
    exact ⟨Nat.le_trans punctual dueInTime, hasTime_begin timely punctual fits onward⟩
  | inserting began wake number record call next =>
    cases wakes
    obtain ⟨punctual, later, follows⟩ := timely
    have noted : events = [.inserted began world.now number record _] := World.story_unique told rfl
    rw [noted, Event.storeTime_cons, Event.storeTime_nil, Event.takesBy,
      if_pos (Nat.le_trans punctual dueInTime), Nat.add_zero, ← Nat.add_assoc] at within
    have ends := Procedure.le_put_off punctual later
    exact ⟨Nat.le_trans ends (Nat.le_trans (Nat.le_add_right ..) within), _, ⟨ends, follows _⟩, within⟩
  | reading began wake id call next =>
    cases wakes
    obtain ⟨punctual, later, follows⟩ := timely
    have noted : events = [.read began world.now id _] := World.story_unique told rfl
    rw [noted, Event.storeTime_cons, Event.storeTime_nil, Event.takesBy,
      if_pos (Nat.le_trans punctual dueInTime), Nat.add_zero, ← Nat.add_assoc] at within
    have ends := Procedure.le_put_off punctual later
    exact ⟨Nat.le_trans ends (Nat.le_trans (Nat.le_add_right ..) within), _, ⟨ends, follows _⟩, within⟩

theorem together_eq_of_hasTime (fits : bound < Instant.limit) (noticed : bound ≤ limit)
    {tasks : List (Task σ α)}
    (haveTime : List.Forall₂ (HasTime bound) (stories setting none tasks world) tasks) :
    together setting (some limit) tasks world = together setting none tasks world := by
  induction tasks, world using together_induct setting none with
  | finished tasks world waitless =>
    rw [together]
    simp only [waitless]
  | cut tasks world wake found late => cases late
  | stepped before task rest world wake run found early wakes first ih =>
    obtain ⟨earlier, own, others, onward, aligned⟩ :=
      stories_split setting none before (step setting (world.moveTo wake) task).1 rest
        (step setting (world.moveTo wake) task).2
    obtain ⟨events, told⟩ := step_history setting (world.moveTo wake) wakes
    rw [stories_of_step found early wakes first told aligned onward] at haveTime
    obtain ⟨ahead, hasTime, behind⟩ := (forall₂_middle_iff aligned).mp haveTime
    obtain ⟨inTime, goesOn⟩ := hasTime.step wakes fits told
    rw [onward] at ih
    have early := Procedure.isCut_of_le (Nat.le_trans inTime noticed)
    exact (together_of_step found early wakes first).trans
      (ih ((forall₂_middle_iff aligned).mpr ⟨ahead, goesOn, behind⟩))

end Task

structure Store.Instantaneous (store : Store σ) : Prop where
  insert : ∀ record now state, (store.insert record now state).1.takes = .zero
  read : ∀ id now state, (store.read id now state).1.takes = .zero

namespace Task

variable {task : Task σ α}

def IsInstant : Task σ α → Prop
  | finished _ | ready .. => True
  | inserting began wake .. | reading began wake .. => wake = began.after .zero

theorem isInstant_begin (instantly : setting.store.Instantaneous) (world : World σ)
    (procedure : Procedure α) : (begin setting world procedure).1.IsInstant := by
  cases procedure with
  | done | enter | pause => trivial
  | insert make next =>
    exact congrArg world.now.after (instantly.insert (make (setting.identity world.issued)) _ _)
  | read id next => exact congrArg world.now.after (instantly.read id _ _)

theorem takesBy_eq_zero {began ended : Instant} (fits : bound < Instant.limit)
    (instant : ended = began.after .zero) : (if began ≤ bound then ended - began else 0) = 0 := by
  split
  next early =>
    have same : began.after .zero = began := Instant.after_of_lt (Nat.lt_of_le_of_lt early fits)
    rw [instant, same, Nat.sub_self]
  next => rfl

theorem IsInstant.step (instant : task.IsInstant) (instantly : setting.store.Instantaneous)
    (wakes : task.wake? = some world.now) (fits : bound < Instant.limit) {events : List Event}
    (told : (step setting world task).2.history = events.reverse ++ world.history) :
    storeTime bound events = 0 ∧ (step setting world task).1.IsInstant := by
  cases task with
  | finished result => cases wakes
  | ready wake procedure =>
    refine ⟨?_, isInstant_begin instantly world procedure⟩
    cases procedure with
    | done | pause | insert | read =>
      have noted : events = [] := World.story_unique told rfl
      rw [noted, Event.storeTime_nil]
    | enter mark next =>
      have noted : events = [.entered mark] := World.story_unique told rfl
      rw [noted]
      rfl
  | inserting began wake number record call next =>
    cases wakes
    refine ⟨?_, trivial⟩
    have noted : events = [.inserted began world.now number record _] := World.story_unique told rfl
    rw [noted, Event.storeTime_cons, Event.storeTime_nil, Nat.add_zero]
    exact takesBy_eq_zero fits instant
  | reading began wake id call next =>
    cases wakes
    refine ⟨?_, trivial⟩
    have noted : events = [.read began world.now id _] := World.story_unique told rfl
    rw [noted, Event.storeTime_cons, Event.storeTime_nil, Nat.add_zero]
    exact takesBy_eq_zero fits instant

theorem storeTime_stories (instantly : setting.store.Instantaneous) (fits : bound < Instant.limit)
    (tasks : List (Task σ α)) (world : World σ) (instant : ∀ task ∈ tasks, task.IsInstant) :
    ∀ story ∈ stories setting none tasks world, storeTime bound story = 0 := by
  induction tasks, world using together_induct setting none with
  | finished tasks world waitless =>
    rw [stories_of_waitless waitless]
    intro story listed
    obtain ⟨task, _, rfl⟩ := List.mem_map.mp listed
    exact Event.storeTime_nil
  | cut tasks world wake found late => cases late
  | stepped before task rest world wake run found early wakes first ih =>
    obtain ⟨earlier, own, others, onward, aligned⟩ :=
      stories_split setting none before (step setting (world.moveTo wake) task).1 rest
        (step setting (world.moveTo wake) task).2
    obtain ⟨events, told⟩ := step_history setting (world.moveTo wake) wakes
    rw [stories_of_step found early wakes first told aligned onward]
    rw [List.forall_mem_append, List.forall_mem_cons] at instant
    obtain ⟨ahead, turn, behind⟩ := instant
    obtain ⟨silent, goesOn⟩ := turn.step instantly wakes fits told
    have stays := ih (List.forall_mem_append.mpr ⟨ahead, List.forall_mem_cons.mpr ⟨goesOn, behind⟩⟩)
    rw [onward, List.forall_mem_append, List.forall_mem_cons] at stays
    obtain ⟨aheadStays, ownStays, behindStays⟩ := stays
    have whole : storeTime bound (events ++ own) = 0 := by
      rw [Event.storeTime_append, silent, ownStays]
    exact List.forall_mem_append.mpr ⟨aheadStays, List.forall_mem_cons.mpr ⟨whole, behindStays⟩⟩

end Task

end DeliveryCheck
