import DeliveryCheck.Procedure.Alone
import DeliveryCheck.Proofs.Run.World

namespace DeliveryCheck.Procedure

variable {σ α : Type}

/-- A way of carrying out a procedure: when it starts, the events it causes in their order, when it
stops, and its result unless it is cut off. Every pause ends when it should. -/
inductive Course (identity : Nat → Identity) :
    Procedure α → Instant → List Event → Instant → Option α → Prop where
  | cut {procedure now ended} : Course identity procedure now [] ended none
  | done {result now} : Course identity (.done result) now [] now (some result)
  | enter {mark next now story ended result} (rest : Course identity next now story ended result) :
    Course identity (.enter mark next) now (.entered mark :: story) ended result
  | pause {length next now story ended result}
    (rest : Course identity (next (now.after length)) (now.after length) story ended result) :
    Course identity (.pause length next) now story ended result
  | insert {make next now instant number answer story ended result} (later : now ≤ instant)
    (rest : Course identity (next instant answer) instant story ended result) :
    Course identity (.insert make next) now
      (.inserted now instant number (make (identity number)) answer :: story) ended result
  | read {id next now instant answer story ended result} (later : now ≤ instant)
    (rest : Course identity (next instant answer) instant story ended result) :
    Course identity (.read id next) now (.read now instant id answer :: story) ended result

theorem Course.of_done {identity : Nat → Identity} {value result : α} {now ended : Instant}
    {story : List Event}
    (course : (Procedure.done value).Course identity now story ended (some result)) :
    story = [] ∧ ended = now ∧ result = value := by
  cases course
  exact ⟨rfl, rfl, rfl⟩

theorem Course.nil_of_done {identity : Nat → Identity} {value : α} {now ended : Instant}
    {story : List Event} {result : Option α}
    (course : (Procedure.done value).Course identity now story ended result) : story = [] := by
  cases course <;> rfl

theorem Course.exists_whole (identity : Nat → Identity) (procedure : Procedure α) (now : Instant) :
    ∃ story ended answer, Course identity procedure now story ended (some answer) := by
  induction procedure generalizing now with
  | done result => exact ⟨[], now, result, .done⟩
  | enter mark next ih =>
    obtain ⟨story, ended, answer, course⟩ := ih now
    exact ⟨_, ended, answer, .enter course⟩
  | pause length next ih =>
    obtain ⟨story, ended, answer, course⟩ := ih (now.after length) (now.after length)
    exact ⟨story, ended, answer, .pause course⟩
  | insert make next ih =>
    obtain ⟨story, ended, answer, course⟩ := ih now (.error .instantOverflow) now
    exact ⟨.inserted now now 0 (make (identity 0)) (.error .instantOverflow) :: story, ended, answer,
      .insert (Nat.le_refl now) course⟩
  | read id next ih =>
    obtain ⟨story, ended, answer, course⟩ := ih now (.error .instantOverflow) now
    exact ⟨_, ended, answer, .read (Nat.le_refl now) course⟩

theorem Course.exists_rest {identity : Nat → Identity} {procedure : Procedure α} {now ended : Instant} {story : List Event}
    {result : Option α} (course : procedure.Course identity now story ended result) :
    ∃ rest finish answer, procedure.Course identity now (story ++ rest) finish (some answer) ∧
      ∀ value, result = some value → rest = [] ∧ answer = value := by
  induction course with
  | @cut procedure now =>
    obtain ⟨story, ended, answer, whole⟩ := exists_whole identity procedure now
    exact ⟨story, ended, answer, whole, nofun⟩
  | @done result now => exact ⟨[], now, result, .done, fun value same => ⟨rfl, Option.some.inj same⟩⟩
  | enter _ ih =>
    obtain ⟨rest, finish, answer, whole, same⟩ := ih
    exact ⟨rest, finish, answer, .enter whole, same⟩
  | pause _ ih =>
    obtain ⟨rest, finish, answer, whole, same⟩ := ih
    exact ⟨rest, finish, answer, .pause whole, same⟩
  | insert later _ ih =>
    obtain ⟨rest, finish, answer, whole, same⟩ := ih
    exact ⟨rest, finish, answer, .insert later whole, same⟩
  | read later _ ih =>
    obtain ⟨rest, finish, answer, whole, same⟩ := ih
    exact ⟨rest, finish, answer, .read later whole, same⟩

/-- Whether all that a procedure does with the store is to read one record. -/
def OnlyReads (id : Uuid) : Procedure α → Prop
  | .done _ => True
  | .insert .. => False
  | .read other next => other = id ∧ ∀ now answer, OnlyReads id (next now answer)
  | .pause _ next => ∀ now, OnlyReads id (next now)
  | .enter _ next => OnlyReads id next

theorem OnlyReads.calls {identity : Nat → Identity} {id : Uuid} {procedure : Procedure α}
    {now ended : Instant} {story : List Event} {result : Option α} (only : procedure.OnlyReads id)
    (course : Course identity procedure now story ended result) :
    ∀ event ∈ story, event.isCall → ∃ began instant answer, event = .read began instant id answer := by
  induction course with
  | cut | done => simp
  | enter rest ih =>
    intro event member call
    rcases List.mem_cons.mp member with rfl | member
    · simp [Event.isCall] at call
    · exact ih only event member call
  | pause rest ih => exact ih (only _)
  | insert later rest ih => exact only.elim
  | read later rest ih =>
    obtain ⟨rfl, follows⟩ := only
    intro event member call
    rcases List.mem_cons.mp member with rfl | member
    · exact ⟨_, _, _, rfl⟩
    · exact ih (follows _ _) event member call

variable (setting : Setting σ) (limit : Option Instant)

theorem alone_insert (make : Identity → Record)
    (next : Instant → Except Error Uuid → Procedure α) (world : World σ) :
    (insert make next).alone setting limit world =
      let begun := world.beginInsert setting make
      let ended := world.now.after begun.2.1.takes
      if isCut limit ended then (none, begun.2.2.cut limit)
      else
        let settled := begun.2.2.settle begun.2.1 ended
          (.inserted world.now ended world.issued begun.1)
        (next ended settled.1).alone setting limit settled.2 := rfl

theorem alone_read (id : Uuid) (next : Instant → Except Error (Option Status) → Procedure α)
    (world : World σ) :
    (read id next).alone setting limit world =
      let begun := world.beginRead setting id
      let ended := world.now.after begun.1.takes
      if isCut limit ended then (none, begun.2.cut limit)
      else
        let settled := begun.2.settle begun.1 ended (.read world.now ended id)
        (next ended settled.1).alone setting limit settled.2 := rfl

theorem alone_insert_goes (make : Identity → Record)
    (next : Instant → Except Error Uuid → Procedure α) (world : World σ) :
    ∃ ended number answer later, world.now ≤ ended ∧ later.now = ended ∧
      later.history =
        .inserted world.now ended number (make (setting.identity number)) answer :: world.history ∧
      ∀ limit,
        (isCut limit ended = false →
          (insert make next).alone setting limit world =
            (next ended answer).alone setting limit later) ∧
        (isCut limit ended = true →
          ((insert make next).alone setting limit world).1 = none ∧
            ((insert make next).alone setting limit world).2.history = world.history) := by
  let begun := world.beginInsert setting make
  let settled := begun.2.2.settle begun.2.1 (world.now.after begun.2.1.takes)
    (.inserted world.now (world.now.after begun.2.1.takes) world.issued begun.1)
  refine ⟨_, world.issued, settled.1, settled.2, world.now.le_after _, rfl, rfl, fun limit => ?_⟩
  rw [alone_insert]
  constructor
  · intro early
    dsimp only
    rw [if_neg (by rw [early]; exact Bool.false_ne_true)]
  · intro late
    dsimp only
    rw [if_pos late]
    exact ⟨rfl, rfl⟩

theorem alone_read_goes (id : Uuid)
    (next : Instant → Except Error (Option Status) → Procedure α) (world : World σ) :
    ∃ ended answer later, world.now ≤ ended ∧ later.now = ended ∧
      later.history = .read world.now ended id answer :: world.history ∧
      ∀ limit,
        (isCut limit ended = false →
          (read id next).alone setting limit world = (next ended answer).alone setting limit later) ∧
        (isCut limit ended = true →
          ((read id next).alone setting limit world).1 = none ∧
            ((read id next).alone setting limit world).2.history = world.history) := by
  let begun := world.beginRead setting id
  let settled := begun.2.settle begun.1 (world.now.after begun.1.takes)
    (.read world.now (world.now.after begun.1.takes) id)
  refine ⟨_, settled.1, settled.2, world.now.le_after _, rfl, rfl, fun limit => ?_⟩
  rw [alone_read]
  constructor
  · intro early
    dsimp only
    rw [if_neg (by rw [early]; exact Bool.false_ne_true)]
  · intro late
    dsimp only
    rw [if_pos late]
    exact ⟨rfl, rfl⟩

theorem alone_insert_cases (make : Identity → Record)
    (next : Instant → Except Error Uuid → Procedure α) (world : World σ) :
    (((insert make next).alone setting limit world).1 = none ∧
      ((insert make next).alone setting limit world).2.history = world.history) ∨
    ∃ ended number answer later, world.now ≤ ended ∧ later.now = ended ∧
      later.history =
        .inserted world.now ended number (make (setting.identity number)) answer :: world.history ∧
      (insert make next).alone setting limit world =
        (next ended answer).alone setting limit later := by
  obtain ⟨ended, number, answer, later, after, now, told, goes⟩ :=
    alone_insert_goes setting make next world
  cases cut : isCut limit ended with
  | true => exact .inl ((goes limit).2 cut)
  | false => exact .inr ⟨ended, number, answer, later, after, now, told, (goes limit).1 cut⟩

theorem alone_read_cases (id : Uuid)
    (next : Instant → Except Error (Option Status) → Procedure α) (world : World σ) :
    (((read id next).alone setting limit world).1 = none ∧
      ((read id next).alone setting limit world).2.history = world.history) ∨
    ∃ ended answer later, world.now ≤ ended ∧ later.now = ended ∧
      later.history = .read world.now ended id answer :: world.history ∧
      (read id next).alone setting limit world =
        (next ended answer).alone setting limit later := by
  obtain ⟨ended, answer, later, after, now, told, goes⟩ := alone_read_goes setting id next world
  cases cut : isCut limit ended with
  | true => exact .inl ((goes limit).2 cut)
  | false => exact .inr ⟨ended, answer, later, after, now, told, (goes limit).1 cut⟩

theorem alone_course (procedure : Procedure α) (world : World σ) :
    ∃ story,
      Course setting.identity procedure world.now story
        (procedure.alone setting limit world).2.now (procedure.alone setting limit world).1 ∧
      (procedure.alone setting limit world).2.history = story.reverse ++ world.history := by
  induction procedure generalizing world with
  | done result => exact ⟨[], .done, rfl⟩
  | enter mark next ih =>
    obtain ⟨story, course, told⟩ := ih (world.note (.entered mark))
    refine ⟨.entered mark :: story, .enter course, ?_⟩
    rw [alone, told, World.history_note]
    simp
  | pause length next ih =>
    rw [alone]
    split
    · exact ⟨[], .cut, rfl⟩
    · obtain ⟨story, course, told⟩ := ih _ (world.moveTo (world.now.after length))
      exact ⟨story, .pause course, told⟩
  | insert make next ih =>
    rcases alone_insert_cases setting limit make next world with
      ⟨cut, told⟩ | ⟨ended, number, answer, later, after, rfl, told, same⟩
    · rw [cut, told]
      exact ⟨[], .cut, rfl⟩
    · obtain ⟨story, course, onward⟩ := ih later.now answer later
      rw [same]
      refine ⟨.inserted world.now later.now number (make (setting.identity number)) answer :: story,
        .insert after course, ?_⟩
      rw [onward, told]
      simp
  | read id next ih =>
    rcases alone_read_cases setting limit id next world with
      ⟨cut, told⟩ | ⟨ended, answer, later, after, rfl, told, same⟩
    · rw [cut, told]
      exact ⟨[], .cut, rfl⟩
    · obtain ⟨story, course, onward⟩ := ih later.now answer later
      rw [same]
      refine ⟨_ :: story, .read after course, ?_⟩
      rw [onward, told]
      simp

theorem alone_unlimited (procedure : Procedure α) (world : World σ) :
    ∃ result, (procedure.alone setting none world).1 = some result := by
  induction procedure generalizing world with
  | done result => exact ⟨result, rfl⟩
  | enter mark next ih => exact ih _
  | pause length next ih => exact ih _ _
  | insert make next ih => exact ih _ _ _
  | read id next ih => exact ih _ _ _

end DeliveryCheck.Procedure
