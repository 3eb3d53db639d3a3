import Mathlib
import DeliveryCheck.Proofs.Worker.Told

namespace DeliveryCheck

def Record.eligibleAt (record : Record) (inserted : Instant) (wall : Timestamp) : Instant :=
  inserted + (record.deliverAt.elim .zero (·.timeLeft wall)).nanos

namespace Event

def answeredAt? (id : Uuid) : Event → Option Instant
  | .read _ ended other (.ok _) => if other = id then some ended else none
  | _ => none

def answeredAt (id : Uuid) (story : List Event) : List Instant := story.filterMap (answeredAt? id)

variable {id : Uuid} {story : List Event} {event : Event}

theorem answeredAt?_of_elsewhere (elsewhere : event.isAbout id = false) :
    event.answeredAt? id = none := by
  cases event with
  | read _ _ other answer =>
    have different : other ≠ id := by simpa [isAbout, stores, reads] using elsewhere
    cases answer with
    | ok => exact if_neg different
    | error => rfl
  | inserted | entered | reported | printed | closed => rfl

theorem answeredAt_filter : answeredAt id (story.filter (isAbout id)) = answeredAt id story := by
  rw [answeredAt, List.filterMap_filter]
  refine List.filterMap_congr fun event _ => ?_
  cases about : event.isAbout id with
  | true => rfl
  | false => exact (answeredAt?_of_elsewhere about).symm

theorem answeredAt_append (rest : List Event) :
    answeredAt id (story ++ rest) = answeredAt id story ++ answeredAt id rest :=
  List.filterMap_append

theorem answeredAt_cons_ok {began ended : Instant} {status : Option Status} :
    answeredAt id (.read began ended id (.ok status) :: story) = ended :: answeredAt id story :=
  List.filterMap_cons_some (if_pos rfl)

end Event

namespace Worker

/-- What a read of a record shows at an instant, the earlier ones answered at these instants. -/
def Behavior.shows (inserted eligible : Instant) (earlier : List Instant) (now : Instant) :
    Behavior → Option Status
  | .honor latency => some (Entry.statusOf (eligible + latency.nanos ≤ now))
  | .eager => some (Entry.statusOf true)
  | .stalled => some (Entry.statusOf false)
  | .invisible => none
  | .failing reason => some (Entry.failedStatus reason)
  | .flapping latency =>
    some (Entry.statusOf (inserted + latency.nanos ≤ now ∧
      ∀ instant ∈ earlier, instant < inserted + latency.nanos))

namespace Behavior

variable {behavior : Behavior} {inserted eligible now later : Instant} {earlier others : List Instant}

theorem shows_of_steady (steady : ∀ latency, behavior ≠ .flapping latency) :
    behavior.shows inserted eligible others now = behavior.shows inserted eligible earlier now := by
  cases behavior with
  | flapping latency => exact absurd rfl (steady latency)
  | honor | eager | stalled | invisible | failing => rfl

theorem shows_onward (steady : ∀ latency, behavior ≠ .flapping latency) (onward : now ≤ later)
    (processed : (behavior.shows inserted eligible earlier now).any Status.processed) :
    (behavior.shows inserted eligible others later).any Status.processed := by
  cases behavior with
  | flapping latency => exact absurd rfl (steady latency)
  | honor latency =>
    have due : eligible + latency.nanos ≤ now := by simpa [shows, Entry.statusOf] using processed
    simpa [shows, Entry.statusOf] using Nat.le_trans due onward
  | eager => rfl
  | stalled | invisible | failing => cases processed

theorem shows_once {latency : Duration} (seen : now ∈ others)
    (processed : ((flapping latency).shows inserted eligible earlier now).any Status.processed) :
    ((flapping latency).shows inserted eligible others later).any Status.processed = false := by
  have late : inserted + latency.nanos ≤ now := by
    simp only [shows, Entry.statusOf, Option.any_some, decide_eq_true_eq] at processed
    exact processed.1
  simp only [shows, Entry.statusOf, Option.any_some, decide_eq_false_iff_not]
  exact fun unseen => Nat.not_lt_of_le late (unseen.2 now seen)

end Behavior

namespace Entry

variable {entry later : Entry} {now : Instant} {status : Option Status} {earlier : List Instant}

/-- The reads of a record answered at these instants have left its entry so. -/
structure LeftBy (entry : Entry) (earlier : List Instant) (later : Entry) : Prop where
  kept : later = { entry with lateReads := later.lateReads }
  unseen_iff : ∀ latency, entry.behavior = .flapping latency →
    (later.lateReads = 0 ↔
      entry.lateReads = 0 ∧ ∀ instant ∈ earlier, instant < entry.inserted + latency.nanos)

theorem LeftBy.refl : entry.LeftBy [] entry := ⟨rfl, by simp⟩

theorem leftBy_of_observe (observed : entry.observe now = some (status, later)) :
    entry.LeftBy [now] later := by
  refine ⟨observe_keeps observed, fun latency flaps => ?_⟩
  simp only [observe, flaps, Option.map_eq_some_iff] at observed
  obtain ⟨ready, found, same⟩ := observed
  obtain ⟨_, rfl⟩ := Instant.after?_eq_some_iff.mp found
  split at same
  next late =>
    cases same
    simp [Nat.not_lt.mpr late]
  next early =>
    cases same
    simp [Nat.lt_of_not_le early]

theorem LeftBy.trans {last : Entry} {others : List Instant} (one : entry.LeftBy earlier later)
    (two : later.LeftBy others last) : entry.LeftBy (earlier ++ others) last := by
  obtain ⟨kept, unseen⟩ := one
  obtain ⟨keptToo, unseenToo⟩ := two
  refine ⟨by rw [keptToo, kept], fun latency flaps => ?_⟩
  have behaves : later.behavior = .flapping latency := by rw [kept, flaps]
  have begun : later.inserted = entry.inserted := by rw [kept]
  rw [unseenToo latency behaves, unseen latency flaps, begun, List.forall_mem_append, and_assoc]

theorem observe_shows (observed : entry.observe now = some (status, later))
    (unseen : ∀ latency, entry.behavior = .flapping latency →
      (entry.lateReads = 0 ↔ ∀ instant ∈ earlier, instant < entry.inserted + latency.nanos)) :
    status = entry.behavior.shows entry.inserted entry.due earlier now := by
  cases behaves : entry.behavior with
  | eager | stalled | invisible | failing =>
    simp only [observe, behaves, Option.some.injEq, Prod.mk.injEq] at observed
    exact observed.1.symm
  | honor latency =>
    simp only [observe, behaves, Option.map_eq_some_iff] at observed
    obtain ⟨ready, found, same⟩ := observed
    obtain ⟨_, rfl⟩ := Instant.after?_eq_some_iff.mp found
    cases same
    rfl
  | flapping latency =>
    simp only [observe, behaves, Option.map_eq_some_iff] at observed
    obtain ⟨ready, found, same⟩ := observed
    obtain ⟨_, rfl⟩ := Instant.after?_eq_some_iff.mp found
    split at same
    next late =>
      cases same
      simp [Behavior.shows, late, unseen latency behaves]
    next early =>
      cases same
      simp [Behavior.shows, early]

end Entry

theorem Told.leftBy {script : Script} {wall : Instant → Timestamp} {id : Uuid} {entry : Entry}
    {story : List Event} {last : Option Entry} (told : Told script wall id (some entry) story last) :
    ∃ later, last = some later ∧ entry.LeftBy (Event.answeredAt id story) later := by
  generalize present : some entry = first at told
  induction told generalizing entry with
  | nil => exact ⟨entry, present.symm, .refl⟩
  | inserted | hidden => cases present
  | seen observed _ ih =>
    cases present
    obtain ⟨later, same, left⟩ := ih rfl
    refine ⟨later, same, ?_⟩
    rw [Event.answeredAt_cons_ok]
    exact (Entry.leftBy_of_observe observed).trans left
  | failed _ ih => exact ih present
  | other elsewhere _ ih =>
    obtain ⟨later, same, left⟩ := ih present
    refine ⟨later, same, ?_⟩
    rwa [Event.answeredAt, List.filterMap_cons_none (Event.answeredAt?_of_elsewhere elsewhere)]

/-- What can be done to a world with a scripted store: a move, or a switch of the store itself. -/
inductive Use (setting : Setting State) : World State → World State → Prop where
  | move {one two} (move : World.Move setting one two) : Use setting one two
  | setUnavailable {world value} : Use setting world (world.withState (world.state.setUnavailable value))
  | close {world} : Use setting world (world.withState (setting.store.close world.state))

def Serves (script : Script) (storeWall : Instant → Timestamp) (story : List Event) : Prop :=
  ∃ identity wall one two,
    Relation.ReflTransGen (Use ⟨store script storeWall, identity, wall⟩) one two ∧
      two.history = story.reverse ++ one.history

/-- In a story a record is inserted at an instant, other events follow, and then a read of it that ends at
`now` is answered. -/
def Answered (story : List Event) (record : Record) (inserted : Instant) (between : List Event)
    (now : Instant) (status : Option Status) : Prop :=
  ∃ before began number asked after,
    story = before ++ .inserted began inserted number record (.ok record.id) ::
      (between ++ .read asked now record.id (.ok status) :: after)

section

variable {script : Script} {storeWall : Instant → Timestamp} {story between : List Event}
  {record : Record} {inserted now : Instant} {status : Option Status}

theorem uses_of_moves {setting : Setting State} {one two : World State}
    (moves : World.Moves setting one two) : Relation.ReflTransGen (Use setting) one two :=
  Relation.ReflTransGen.mono (fun _ _ => Use.move) _ _ moves

theorem tells_of_uses {identity : Nat → Identity} {wall : Instant → Timestamp} {one two : World State}
    (uses : Relation.ReflTransGen (Use ⟨store script storeWall, identity, wall⟩) one two) :
    Tells script storeWall one two := by
  induction uses with
  | refl => exact .refl _
  | tail _ use ih =>
    refine ih.trans ?_
    cases use with
    | move move => exact told_of_move move
    | setUnavailable | close => exact ⟨[], rfl, fun _ => .nil⟩

theorem Serves.told (served : Serves script storeWall story) (id : Uuid) :
    ∃ first last, Told script storeWall id first story last := by
  obtain ⟨identity, wall, one, two, uses, history⟩ := served
  obtain ⟨other, historyToo, told⟩ := tells_of_uses uses
  cases World.story_unique history historyToo
  exact ⟨_, _, told id⟩

theorem Told.entry_of_inserted {id : Uuid} {began : Instant} {number : Nat} {rest : List Event}
    {first last : Option Entry}
    (told : Told script storeWall id first
      (.inserted began inserted number record (.ok id) :: rest) last) :
    ∃ entry, State.entryFor? script record inserted (storeWall inserted) = some entry ∧
      Told script storeWall id (some entry) rest last := by
  cases told with
  | inserted _ made rest => exact ⟨_, made, rest⟩
  | other elsewhere => simp [Event.isAbout, Event.stores] at elsewhere

theorem Told.observed_of_read {id : Uuid} {entry : Entry} {began : Instant} {rest : List Event}
    {last : Option Entry}
    (told : Told script storeWall id (some entry) (.read began now id (.ok status) :: rest) last) :
    ∃ later, entry.observe now = some (status, later) := by
  cases told with
  | seen observed => exact ⟨_, observed⟩
  | other elsewhere => simp [Event.isAbout, Event.reads] at elsewhere

theorem eq_of_entryFor? {entry : Entry} {wall : Timestamp}
    (made : State.entryFor? script record inserted wall = some entry) :
    entry = ⟨record, script.behaviorFor record, inserted, record.eligibleAt inserted wall, 0⟩ := by
  obtain ⟨due, written, rfl⟩ := State.entryFor?_eq_some_iff.mp made
  rw [Record.eligibleAt]
  unfold State.due? at written
  split at written
  next delivery found =>
    obtain ⟨_, rfl⟩ := Instant.after?_eq_some_iff.mp written
    rw [found]
    rfl
  next undated =>
    cases written
    rw [undated]
    rfl

theorem Answered.shows (answered : Answered story record inserted between now status)
    (served : Serves script storeWall story) :
    status = (script.behaviorFor record).shows inserted
      (record.eligibleAt inserted (storeWall inserted)) (Event.answeredAt record.id between) now := by
  obtain ⟨before, began, number, asked, after, rfl⟩ := answered
  obtain ⟨first, last, told⟩ := served.told record.id
  -- The insertion makes the entry, and up to the read only the answered reads of it count.
  obtain ⟨_, _, told⟩ := told.split
  obtain ⟨fresh, made, told⟩ := told.entry_of_inserted
  obtain rfl := eq_of_entryFor? made
  obtain ⟨_, earlier, told⟩ := told.split
  obtain ⟨entry, rfl, kept, unseen⟩ := earlier.leftBy
  obtain ⟨later, observed⟩ := told.observed_of_read
  have behaves : entry.behavior = script.behaviorFor record := by rw [kept]
  have begun : entry.inserted = inserted := by rw [kept]
  have due : entry.due = record.eligibleAt inserted (storeWall inserted) := by rw [kept]
  rw [← behaves, ← due, ← begun]
  refine Entry.observe_shows observed fun latency flaps => ?_
  rw [behaves] at flaps
  rw [unseen latency flaps, begun]
  exact and_iff_right rfl

end

namespace Sample

def flappingScript : Script := { behavior := .flapping (.ofSeconds 1) }

def sharedSetting : Setting State :=
  ⟨store flappingScript fun now => ⟨now⟩, fun issued => ⟨.ofNat issued, .ofNat 7⟩, fun now => ⟨now⟩⟩

def note (number : Nat) : Record := .immediate ⟨.ofNat number, .ofNat 7⟩ "T" "B"

def sharedUse : Procedure Unit :=
  .insert (.immediate · "T" "B") fun _ _ =>
    .insert (.immediate · "T" "B") fun _ _ =>
      .pause (.ofSeconds 1) fun _ =>
        .read (.ofNat 1) fun _ _ => .read (.ofNat 0) fun _ _ => .read (.ofNat 1) fun _ _ => .done ()

def sharedStory : List Event :=
  [.inserted 0 0 0 (note 0) (.ok (.ofNat 0)),
    .inserted 0 0 1 (note 1) (.ok (.ofNat 1)),
    .read second second (.ofNat 1) (.ok (some ⟨true, 0, none⟩)),
    .read second second (.ofNat 0) (.ok (some ⟨true, 0, none⟩)),
    .read second second (.ofNat 1) (.ok (some ⟨false, 0, none⟩))]

def freshWorld : World State := ⟨0, {}, 0, []⟩

theorem sharedStory_served : Serves flappingScript (fun now => ⟨now⟩) sharedStory := by
  refine ⟨sharedSetting.identity, sharedSetting.wall, freshWorld,
    (sharedUse.alone sharedSetting none freshWorld).2, ?_, by cbv⟩
  exact uses_of_moves (Procedure.alone_moves sharedSetting none sharedUse freshWorld)

end Sample

end Worker

end DeliveryCheck
