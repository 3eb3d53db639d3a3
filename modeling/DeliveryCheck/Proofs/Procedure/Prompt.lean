import DeliveryCheck.Proofs.Procedure.Course

namespace DeliveryCheck

variable {σ α : Type}

/-- In every ready state a read of one record is settled at once, with an answer that is a function of
the time, and the state stays ready. -/
structure Store.Prompt (store : Store σ) (id : Uuid) (ready : σ → Prop)
    (answer : Instant → Option Status) : Prop where
  takes : ∀ now state, ready state → (store.read id now state).1.takes = .zero
  answers : ∀ now state, ready state →
    ((store.read id now state).1.settle now (store.read id now state).2).1 = .ok (answer now)
  stays : ∀ now state, ready state →
    ready ((store.read id now state).1.settle now (store.read id now state).2).2

/-- One world comes after another: at an instant, in a ready state and with these events since. -/
structure World.Reaches (world later : World σ) (ready : σ → Prop) (now : Instant)
    (story : List Event) : Prop where
  now_eq : later.now = now
  held : ready later.state
  told : later.history = story.reverse ++ world.history

namespace World.Reaches

variable {world later last : World σ} {ready : σ → Prop} {now finish : Instant}
  {story rest : List Event}

theorem refl (held : ready world.state) : world.Reaches world ready world.now [] :=
  ⟨rfl, held, rfl⟩

theorem trans (first : world.Reaches later ready now story)
    (second : later.Reaches last ready finish rest) :
    world.Reaches last ready finish (story ++ rest) := by
  refine ⟨second.now_eq, second.held, ?_⟩
  rw [second.told, first.told, List.reverse_append, List.append_assoc]

theorem moveTo (first : world.Reaches later ready now story) (finish : Instant) :
    world.Reaches (later.moveTo finish) ready finish story :=
  ⟨rfl, first.held, first.told⟩

end World.Reaches

namespace Procedure

variable (setting : Setting σ)

theorem after_zero {now : Instant} (fits : now < Instant.limit) : now.after .zero = now :=
  Instant.after_of_lt fits

theorem alone_pause {length : Duration} {next : Instant → Procedure α} {world : World σ}
    (fits : world.now + length.nanos < Instant.limit) :
    (pause length next).alone setting none world =
      (next (world.now + length.nanos)).alone setting none
        (world.moveTo (world.now + length.nanos)) := by
  rw [alone, Instant.after_of_lt fits]
  rfl

theorem alone_enter (mark : Mark) (next : Procedure α) (world : World σ) :
    (enter mark next).alone setting none world =
      next.alone setting none (world.note (.entered mark)) := rfl

theorem alone_prompt_read {id : Uuid} {ready : σ → Prop} {answer : Instant → Option Status}
    {next : Instant → Except Error (Option Status) → Procedure α} {world : World σ}
    (prompt : setting.store.Prompt id ready answer) (fits : world.now < Instant.limit)
    (held : ready world.state) :
    ∃ later,
      world.Reaches later ready world.now
        [Event.read world.now world.now id (.ok (answer world.now))] ∧
      (read id next).alone setting none world =
        (next world.now (.ok (answer world.now))).alone setting none later := by
  let begun := world.beginRead setting id
  let settled := begun.2.settle begun.1 world.now (.read world.now world.now id)
  have answered : settled.1 = .ok (answer world.now) := prompt.answers world.now world.state held
  have instantly : world.now.after begun.1.takes = world.now := by
    rw [World.call_beginRead, prompt.takes world.now world.state held, after_zero fits]
  refine ⟨settled.2, ⟨rfl, prompt.stays world.now world.state held, ?_⟩, ?_⟩
  · rw [World.history_settle, ← answered]
    rfl
  · rw [alone_read, ← answered]
    simp only [begun] at instantly
    simp only [instantly]
    rfl

end Procedure

end DeliveryCheck
