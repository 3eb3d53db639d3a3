import DeliveryCheck.Proofs.Run.Moves
import DeliveryCheck.Proofs.Poll.Trail
import DeliveryCheck.Proofs.Worker.Entries

namespace DeliveryCheck

namespace Worker

/-- What the entry of a record is after events, if it was another before; an entry is missing until its
record is stored. -/
inductive Told (script : Script) (wall : Instant → Timestamp) (id : Uuid) :
    Option Entry → List Event → Option Entry → Prop where
  | nil {entry} : Told script wall id entry [] entry
  | inserted {began ended number record entry story last} (mine : record.id = id)
    (made : State.entryFor? script record ended (wall ended) = some entry)
    (rest : Told script wall id (some entry) story last) :
    Told script wall id none (.inserted began ended number record (.ok id) :: story) last
  | hidden {began ended story last} (rest : Told script wall id none story last) :
    Told script wall id none (.read began ended id (.ok none) :: story) last
  | seen {entry later began ended status story last}
    (observed : entry.observe ended = some (status, later))
    (rest : Told script wall id (some later) story last) :
    Told script wall id (some entry) (.read began ended id (.ok status) :: story) last
  | failed {entry began ended fault story last} (rest : Told script wall id entry story last) :
    Told script wall id entry (.read began ended id (.error fault) :: story) last
  | other {entry event story last} (elsewhere : event.isAbout id = false)
    (rest : Told script wall id entry story last) : Told script wall id entry (event :: story) last

namespace Told

variable {script : Script} {wall : Instant → Timestamp} {id : Uuid} {first second last : Option Entry}
  {story rest : List Event} {entry : Entry}

theorem trans (one : Told script wall id first story second)
    (two : Told script wall id second rest last) :
    Told script wall id first (story ++ rest) last := by
  induction one with
  | nil => exact two
  | inserted mine made _ ih => exact .inserted mine made (ih two)
  | hidden _ ih => exact .hidden (ih two)
  | seen observed _ ih => exact .seen observed (ih two)
  | failed _ ih => exact .failed (ih two)
  | other elsewhere _ ih => exact .other elsewhere (ih two)

theorem split (told : Told script wall id first (story ++ rest) last) :
    ∃ second, Told script wall id first story second ∧ Told script wall id second rest last := by
  induction story generalizing first with
  | nil => exact ⟨first, .nil, told⟩
  | cons event story ih =>
    cases told with
    | inserted mine made onward =>
      obtain ⟨second, one, two⟩ := ih onward
      exact ⟨second, .inserted mine made one, two⟩
    | hidden onward =>
      obtain ⟨second, one, two⟩ := ih onward
      exact ⟨second, .hidden one, two⟩
    | seen observed onward =>
      obtain ⟨second, one, two⟩ := ih onward
      exact ⟨second, .seen observed one, two⟩
    | failed onward =>
      obtain ⟨second, one, two⟩ := ih onward
      exact ⟨second, .failed one, two⟩
    | other elsewhere onward =>
      obtain ⟨second, one, two⟩ := ih onward
      exact ⟨second, .other elsewhere one, two⟩

theorem filter (told : Told script wall id first story last) :
    Told script wall id first (story.filter (Event.isAbout id)) last := by
  induction told with
  | nil => exact .nil
  | inserted mine made _ ih =>
    rw [List.filter_cons_of_pos (by simp [Event.isAbout, Event.stores])]
    exact .inserted mine made ih
  | hidden _ ih =>
    rw [List.filter_cons_of_pos (by simp [Event.isAbout, Event.reads])]
    exact .hidden ih
  | seen observed _ ih =>
    rw [List.filter_cons_of_pos (by simp [Event.isAbout, Event.reads])]
    exact .seen observed ih
  | failed _ ih =>
    rw [List.filter_cons_of_pos (by simp [Event.isAbout, Event.reads])]
    exact .failed ih
  | other elsewhere _ ih =>
    rw [List.filter_cons_of_neg (by simp [elsewhere])]
    exact ih

theorem keeps (told : Told script wall id (some entry) story last) :
    ∃ later, last = some later ∧ later.record = entry.record ∧ later.behavior = entry.behavior := by
  generalize present : some entry = first at told
  induction told generalizing entry with
  | nil => exact ⟨entry, present.symm, rfl, rfl⟩
  | inserted | hidden => cases present
  | seen observed _ ih =>
    cases present
    obtain ⟨later, same, record, behavior⟩ := ih rfl
    exact ⟨later, same, record.trans (Entry.record_observe observed),
      behavior.trans (Entry.behavior_observe observed)⟩
  | failed _ ih => exact ih present
  | other _ _ ih => exact ih present

theorem countP_stores (told : Told script wall id first story last) :
    story.countP (Event.stores id) ≤ if first.isSome then 0 else 1 := by
  induction told with
  | nil => exact Nat.zero_le _
  | inserted mine _ _ ih => simpa [Event.stores] using ih
  | hidden _ ih => simpa [Event.stores] using ih
  | seen _ _ ih => simpa [Event.stores] using ih
  | failed _ ih => simpa [Event.stores] using ih
  | other elsewhere _ ih =>
    rw [Event.isAbout, Bool.or_eq_false_iff] at elsewhere
    rw [List.countP_cons_of_neg (by simp [elsewhere.1])]
    exact ih

end Told

section

variable {script : Script} {storeWall wall : Instant → Timestamp} {identity : Nat → Identity}
  {one two : World State} {id : Uuid}

theorem told_of_insert {state after : State} {record : Record} {began now : Instant} {number : Nat}
    {answer : Except Error Uuid}
    (inserted : state.insert script record now (storeWall now) = (answer, after)) (id : Uuid) :
    Told script storeWall id (state.find? id) [.inserted began now number record answer]
      (after.find? id) := by
  cases answer with
  | error fault =>
    rw [State.find?_congr (State.insert_error inserted)]
    exact .other rfl .nil
  | ok stored =>
    obtain ⟨rfl, fresh, entry, made, added⟩ := State.insert_ok inserted
    rw [State.find?_inserted added, State.record_entryFor? made]
    by_cases mine : record.id = id
    · rw [if_pos mine]
      subst mine
      rw [fresh]
      exact .inserted rfl made .nil
    · rw [if_neg mine]
      exact .other (by simp [Event.isAbout, Event.stores, Event.reads, mine]) .nil

theorem told_of_failure {began now : Instant} {read : Uuid} {fault : Error} (entry : Option Entry)
    (id : Uuid) : Told script wall id entry [.read began now read (.error fault)] entry := by
  by_cases mine : read = id
  · subst mine
    exact .failed .nil
  · exact .other (by simp [Event.isAbout, Event.stores, Event.reads, mine]) .nil

theorem told_of_settleRead {state after : State} {began now : Instant} {read : Uuid}
    {answer : Except Error (Option Status)}
    (settled : state.settleRead script read now = (answer, after)) (id : Uuid) :
    Told script wall id (state.find? id) [.read began now read answer] (after.find? id) := by
  cases answer with
  | error fault =>
    rw [State.find?_congr (State.settleRead_error settled)]
    exact told_of_failure _ id
  | ok status =>
    have elsewhere : read ≠ id → (Event.read began now read (.ok status)).isAbout id = false := by
      simp [Event.isAbout, Event.stores, Event.reads]
    rcases State.settleRead_ok settled with
      ⟨missing, rfl, same⟩ | ⟨entry, later, found, observed, replaced⟩
    · rw [State.find?_congr same]
      by_cases mine : read = id
      · subst mine
        rw [missing]
        exact .hidden .nil
      · exact .other (elsewhere mine) .nil
    · have here : later.record.id = read := by
        rw [Entry.record_observe observed]
        exact State.id_of_find? found
      rw [State.find?_observed replaced (by rw [here]; exact found), here]
      by_cases mine : read = id
      · subst mine
        rw [if_pos rfl, found]
        exact .seen observed .nil
      · rw [if_neg mine]
        exact .other (elsewhere mine) .nil

/-- The events from one world to another tell the entries of all records what becomes of them. -/
def Tells (script : Script) (storeWall : Instant → Timestamp) (one two : World State) : Prop :=
  ∃ story, two.history = story.reverse ++ one.history ∧
    ∀ id, Told script storeWall id (one.state.find? id) story (two.state.find? id)

theorem Tells.refl (world : World State) : Tells script storeWall world world :=
  ⟨[], rfl, fun _ => .nil⟩

theorem Tells.trans {three : World State} (first : Tells script storeWall one two)
    (second : Tells script storeWall two three) : Tells script storeWall one three := by
  obtain ⟨story, history, told⟩ := first
  obtain ⟨more, onward, toldMore⟩ := second
  refine ⟨story ++ more, ?_, fun id => (told id).trans (toldMore id)⟩
  rw [onward, history, List.reverse_append, List.append_assoc]

theorem told_of_move (move : World.Move ⟨store script storeWall, identity, wall⟩ one two) :
    ∃ story, two.history = story.reverse ++ one.history ∧
      ∀ id, Told script storeWall id (one.state.find? id) story (two.state.find? id) := by
  cases move with
  | wait => exact ⟨[], rfl, fun _ => .nil⟩
  | @note event silent =>
    refine ⟨[event], rfl, fun id => .other ?_ .nil⟩
    cases event with
    | inserted | read => cases silent
    | entered | reported | printed | closed => rfl
  | beginInsert => exact ⟨[], rfl, fun _ => .nil⟩
  | @beginRead read =>
    refine ⟨[], rfl, fun id => ?_⟩
    have same : ((store script storeWall).read read one.now one.state).2 = one.state := by
      simp only [store]
      split <;> rfl
    rw [World.state_beginRead, same]
    exact .nil
  | settleInsert => exact ⟨[_], rfl, told_of_insert rfl⟩
  | @settleRead read began ended state =>
    refine ⟨[_], rfl, fun id => ?_⟩
    by_cases reachable : state.isReachable
    · simp only [store, reachable, if_true]
      exact told_of_settleRead rfl id
    · simp only [store, reachable]
      exact told_of_failure _ id

theorem told_of_moves (moves : World.Moves ⟨store script storeWall, identity, wall⟩ one two) :
    ∃ story, two.history = story.reverse ++ one.history ∧
      ∀ id, Told script storeWall id (one.state.find? id) story (two.state.find? id) := by
  induction moves with
  | refl => exact Tells.refl _
  | tail _ move ih => exact Tells.trans ih (told_of_move move)

end

end Worker

end DeliveryCheck
