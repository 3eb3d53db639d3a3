import DeliveryCheck.Store.Worker

namespace DeliveryCheck.Worker

namespace Entry

variable {entry later : Entry} {now : Instant} {status : Option Status}

theorem observe_keeps (observed : entry.observe now = some (status, later)) :
    later = { entry with lateReads := later.lateReads } := by
  unfold observe at observed
  split at observed
  case h_6 =>
    obtain ⟨ready, _, same⟩ := Option.map_eq_some_iff.mp observed
    split at same <;> cases same <;> rfl
  case h_1 =>
    obtain ⟨ready, _, same⟩ := Option.map_eq_some_iff.mp observed
    cases same
    rfl
  all_goals
    cases observed
    rfl

theorem record_observe (observed : entry.observe now = some (status, later)) :
    later.record = entry.record := by rw [observe_keeps observed]

theorem behavior_observe (observed : entry.observe now = some (status, later)) :
    later.behavior = entry.behavior := by rw [observe_keeps observed]

end Entry

namespace State

variable {state after : State} {script : Script} {id : Uuid} {entry later : Entry} {now : Instant}
  {status : Option Status} {record : Record} {wall : Timestamp}

theorem find?_congr (same : after.entries = state.entries) (id : Uuid) :
    after.find? id = state.find? id := by
  rw [find?, find?, same]

theorem id_of_find? (found : state.find? id = some entry) : entry.record.id = id := by
  simpa using List.find?_some found

theorem find?_replace (entries : List Entry) (entry : Entry) (id : Uuid) :
    (replace entries entry).find? (·.record.id = id) =
      (entries.find? (·.record.id = id)).map fun old =>
        if old.record.id = entry.record.id then entry else old := by
  rw [replace, List.find?_map]
  congr 2
  funext old
  simp only [Function.comp]
  split <;> simp_all

theorem find?_observed (replaced : after.entries = replace state.entries later)
    (found : state.find? later.record.id = some entry) (id : Uuid) :
    after.find? id = if later.record.id = id then some later else state.find? id := by
  rw [find?, replaced, find?_replace]
  by_cases same : later.record.id = id
  · rw [← same]
    have here := id_of_find? found
    rw [find?] at found
    simp [found, here]
  · rw [if_neg same, find?]
    cases other : state.entries.find? (·.record.id = id) with
    | none => rfl
    | some old =>
      have elsewhere : old.record.id = id := by simpa using List.find?_some other
      simp [elsewhere, Ne.symm same]

theorem entryFor?_eq_some_iff :
    entryFor? script record now wall = some entry ↔
      ∃ due, due? record now wall = some due ∧
        entry = ⟨record, script.behaviorFor record, now, due, 0⟩ := by
  rw [entryFor?, Option.map_eq_some_iff]
  exact exists_congr fun due => and_congr_right fun _ => eq_comm

theorem record_entryFor? (made : entryFor? script record now wall = some entry) :
    entry.record = record := by
  obtain ⟨_, _, rfl⟩ := entryFor?_eq_some_iff.mp made
  rfl

theorem insert_ok (inserted : state.insert script record now wall = (.ok id, after)) :
    id = record.id ∧ state.find? record.id = none ∧
      ∃ entry, entryFor? script record now wall = some entry ∧
        after.entries = entry :: state.entries := by
  unfold insert at inserted
  split at inserted
  · cases inserted
  split at inserted
  · cases inserted
  split at inserted
  · cases inserted
  rename_i fresh
  split at inserted
  next entry made =>
    cases inserted
    exact ⟨rfl, by simpa using fresh, entry, made, rfl⟩
  next => cases inserted

theorem insert_error {fault : Error}
    (failed : state.insert script record now wall = (.error fault, after)) :
    after.entries = state.entries := by
  unfold insert at failed
  split at failed
  · cases failed
    rfl
  split at failed
  · cases failed
    rfl
  split at failed
  · cases failed
    rfl
  split at failed
  · cases failed
  · cases failed
    rfl

theorem insert_fresh (reachable : state.isReachable) (sound : state.poisoned = false)
    (fresh : state.find? record.id = none)
    (made : entryFor? script record now wall = some entry) :
    state.insert script record now wall =
      (.ok record.id, { state with entries := entry :: state.entries }) := by
  simp [insert, reachable, sound, fresh, made]

theorem find?_inserted (added : after.entries = entry :: state.entries) (id : Uuid) :
    after.find? id = if entry.record.id = id then some entry else state.find? id := by
  rw [find?, added, List.find?_cons]
  by_cases same : entry.record.id = id
  · simp [same]
  · simp [same, find?]

theorem look_ok (looked : state.look id now = (.ok status, after)) :
    (state.find? id = none ∧ status = none ∧ after.entries = state.entries) ∨
      ∃ entry later, state.find? id = some entry ∧ entry.observe now = some (status, later) ∧
        after.entries = replace state.entries later := by
  unfold look at looked
  split at looked
  · cases looked
  split at looked
  next missing =>
    cases looked
    exact .inl ⟨missing, rfl, rfl⟩
  next entry found =>
    split at looked
    next status later observed =>
      cases looked
      exact .inr ⟨entry, later, found, observed, rfl⟩
    next => cases looked

theorem look_error {fault : Error} (failed : state.look id now = (.error fault, after)) :
    after.entries = state.entries := by
  unfold look at failed
  split at failed
  · cases failed
    rfl
  split at failed
  · cases failed
  split at failed
  · cases failed
  · cases failed
    rfl

theorem settleRead_ok (settled : state.settleRead script id now = (.ok status, after)) :
    (state.find? id = none ∧ status = none ∧ after.entries = state.entries) ∨
      ∃ entry later, state.find? id = some entry ∧ entry.observe now = some (status, later) ∧
        after.entries = replace state.entries later := by
  rw [settleRead] at settled
  split at settled
  · cases settled
  · have looked := look_ok settled
    exact looked

theorem settleRead_error {fault : Error}
    (failed : state.settleRead script id now = (.error fault, after)) :
    after.entries = state.entries := by
  rw [settleRead] at failed
  split at failed
  · cases failed
    rfl
  · have looked := look_error failed
    exact looked

theorem look_observed (sound : state.poisoned = false) (found : state.find? id = some entry)
    (observed : entry.observe now = some (status, later)) :
    state.look id now = (.ok status, { state with entries := replace state.entries later }) := by
  rw [look, sound, if_neg Bool.false_ne_true]
  simp only [found, observed]

theorem settleRead_observed (unlimited : script.readBudget = none) (sound : state.poisoned = false)
    (found : state.find? id = some entry) (observed : entry.observe now = some (status, later)) :
    state.settleRead script id now =
      (.ok status, { state with
        reads := state.reads + 1
        entries := replace state.entries later }) := by
  rw [settleRead, unlimited, if_neg (by simp)]
  exact look_observed sound found observed

end State

end DeliveryCheck.Worker
