import Mathlib.Data.List.Forall2
import DeliveryCheck.Procedure.Together
import DeliveryCheck.Proofs.Procedure.Course
import DeliveryCheck.Proofs.Procedure.Interleaving

namespace DeliveryCheck

namespace Task

variable {σ α : Type}

/-- What is left of a way of carrying out a procedure once a task is as far as this: the events still to
come and the result unless it is cut off. -/
inductive Course (identity : Nat → Identity) : Task σ α → List Event → Option α → Prop where
  | cut {task} : Course identity task [] none
  | finished {result} : Course identity (finished result) [] (some result)
  | ready {wake procedure story ended result}
    (course : procedure.Course identity wake story ended result) :
    Course identity (ready wake procedure) story result
  | inserted {began wake number record call next answer story ended result}
    (course : (next wake answer).Course identity wake story ended result) :
    Course identity (inserting began wake number record call next)
      (.inserted began wake number record answer :: story) result
  | answered {began wake id call next answer story ended result}
    (course : (next wake answer).Course identity wake story ended result) :
    Course identity (reading began wake id call next) (.read began wake id answer :: story) result

variable {setting : Setting σ} {world after : World σ} {task : Task σ α}
  {later tasks : List (Task σ α)} {story : List Event} {result : Option α}

theorem Course.of_ready {identity : Nat → Identity} {wake : Instant} {procedure : Procedure α}
    (course : Course identity (.ready (σ := σ) wake procedure) story result) :
    ∃ ended, procedure.Course identity wake story ended result := by
  cases course with
  | cut => exact ⟨wake, .cut⟩
  | ready course => exact ⟨_, course⟩

theorem Course.unfinished {identity : Nat → Identity} (task : Task σ α) :
    Course identity task [] task.result? := by
  cases task with
  | finished result => exact .finished
  | ready | inserting | reading => exact .cut

theorem begin_course {procedure : Procedure α}
    (course : Course setting.identity (begin setting world procedure).1 story result) :
    ∃ told ended, procedure.Course setting.identity world.now (told ++ story) ended result ∧
      (begin setting world procedure).2.history = told.reverse ++ world.history := by
  cases procedure with
  | done value =>
    cases course with
    | cut => exact ⟨[], world.now, .cut, rfl⟩
    | finished => exact ⟨[], world.now, .done, rfl⟩
  | enter mark next =>
    obtain ⟨ended, course⟩ := course.of_ready
    exact ⟨[.entered mark], ended, .enter course, rfl⟩
  | pause length next =>
    obtain ⟨ended, course⟩ := course.of_ready
    exact ⟨[], ended, .pause course, rfl⟩
  | insert make next =>
    cases course with
    | cut => exact ⟨[], world.now, .cut, rfl⟩
    | inserted course => exact ⟨[], _, .insert (world.now.le_after _) course, rfl⟩
  | read id next =>
    cases course with
    | cut => exact ⟨[], world.now, .cut, rfl⟩
    | answered course => exact ⟨[], _, .read (world.now.le_after _) course, rfl⟩

theorem step_course (world : World σ) (wakes : task.wake? = some world.now)
    (course : Course setting.identity (step setting world task).1 story result) :
    ∃ told, Course setting.identity task (told ++ story) result ∧
      (step setting world task).2.history = told.reverse ++ world.history := by
  cases task with
  | finished value => cases wakes
  | ready wake procedure =>
    cases wakes
    obtain ⟨told, ended, course, history⟩ := begin_course course
    exact ⟨told, .ready course, history⟩
  | inserting began wake number record call next =>
    cases wakes
    obtain ⟨ended, course⟩ := course.of_ready
    exact ⟨[.inserted began world.now number record _], .inserted course, rfl⟩
  | reading began wake id call next =>
    cases wakes
    obtain ⟨ended, course⟩ := course.of_ready
    exact ⟨[.read began world.now id _], .answered course, rfl⟩

theorem stepFirst_some (stepped : stepFirst setting world tasks = some (later, after)) :
    ∃ before task rest, tasks = before ++ task :: rest ∧
      (∀ other ∈ before, other.wake? ≠ some world.now) ∧ task.wake? = some world.now ∧
      later = before ++ (step setting world task).1 :: rest ∧ after = (step setting world task).2 := by
  induction tasks generalizing later with
  | nil => cases stepped
  | cons task rest ih =>
    rw [stepFirst] at stepped
    split at stepped
    next wakes =>
      cases stepped
      exact ⟨[], task, rest, rfl, by simp, wakes, rfl, rfl⟩
    next sleeps =>
      obtain ⟨⟨others, world'⟩, found, same⟩ := Option.map_eq_some_iff.mp stepped
      cases same
      obtain ⟨before, waiting, behind, rfl, first, wakes, rfl, rfl⟩ := ih found
      exact ⟨task :: before, waiting, behind, rfl, List.forall_mem_cons.mpr ⟨sleeps, first⟩, wakes,
        rfl, rfl⟩

theorem stepFirst_eq (setting : Setting σ) (world : World σ) {before : List (Task σ α)}
    (rest : List (Task σ α)) (wakes : task.wake? = some world.now)
    (first : ∀ other ∈ before, other.wake? ≠ some world.now) :
    stepFirst setting world (before ++ task :: rest) =
      some (before ++ (step setting world task).1 :: rest, (step setting world task).2) := by
  induction before with
  | nil => exact if_pos wakes
  | cons other before ih =>
    obtain ⟨sleeps, others⟩ := List.forall_mem_cons.mp first
    rw [List.cons_append, stepFirst, if_neg sleeps, ih others]
    rfl

theorem soonest_mem {wake : Instant} (found : soonest tasks = some wake) :
    ∃ task ∈ tasks, task.wake? = some wake := by
  induction tasks with
  | nil => cases found
  | cons task rest ih =>
    rw [soonest] at found
    have member := List.min?_mem found
    rcases List.mem_append.mp member with member | member
    · exact ⟨task, List.mem_cons_self, by simpa using member⟩
    · obtain ⟨other, listed, wakes⟩ := ih (by simpa using member)
      exact ⟨other, List.mem_cons_of_mem _ listed, wakes⟩

theorem finished_of_soonest (waitless : soonest tasks = none) :
    tasks.map result? = (tasks.filterMap result?).map some := by
  induction tasks with
  | nil => rfl
  | cons task rest ih =>
    rw [soonest, List.min?_eq_none_iff, List.append_eq_nil_iff] at waitless
    obtain ⟨waits, others⟩ := waitless
    cases task with
    | finished value =>
      have rest := ih (by simpa using others)
      simp [result?, rest]
    | ready | inserting | reading => simp [wake?] at waits

theorem stepFirst_isSome (setting : Setting σ) (world : World σ)
    (waiting : ∃ task ∈ tasks, task.wake? = some world.now) :
    (stepFirst setting world tasks).isSome := by
  induction tasks with
  | nil => simp at waiting
  | cons task rest ih =>
    rw [stepFirst]
    split
    next => rfl
    next sleeps =>
      obtain ⟨other, member, wakes⟩ := waiting
      rcases List.mem_cons.mp member with rfl | member
      · exact absurd wakes sleeps
      · rw [Option.isSome_map]
        exact ih ⟨other, member, wakes⟩

theorem together_of_step {limit : Option Instant} {wake : Instant} {before rest : List (Task σ α)}
    (found : soonest (before ++ task :: rest) = some wake) (early : isCut limit wake = false)
    (wakes : task.wake? = some wake) (first : ∀ other ∈ before, other.wake? ≠ some wake) :
    together setting limit (before ++ task :: rest) world =
      together setting limit (before ++ (step setting (world.moveTo wake) task).1 :: rest)
        (step setting (world.moveTo wake) task).2 := by
  have taken := stepFirst_eq setting (world.moveTo wake) rest wakes first
  rw [together]
  simp only [found, early, Bool.false_eq_true, if_false]
  split
  next missing =>
    rw [taken] at missing
    cases missing
  next takenToo =>
    rw [taken] at takenToo
    cases takenToo
    rfl

/-- What holds when all tasks have finished and when they are cut off, and what each step of one of them
keeps, holds of carrying them out together. -/
theorem together_induct (setting : Setting σ) (limit : Option Instant)
    {motive : List (Task σ α) → World σ → Option (List α) × World σ → Prop}
    (finished : ∀ tasks world, soonest tasks = none →
      motive tasks world (some (tasks.filterMap result?), world))
    (cut : ∀ tasks world wake, soonest tasks = some wake → isCut limit wake →
      motive tasks world (none, world.cut limit))
    (stepped : ∀ before task rest world wake run, soonest (before ++ task :: rest) = some wake →
      isCut limit wake = false → task.wake? = some wake →
      (∀ other ∈ before, other.wake? ≠ some wake) →
      motive (before ++ (step setting (world.moveTo wake) task).1 :: rest)
        (step setting (world.moveTo wake) task).2 run →
      motive (before ++ task :: rest) world run)
    (tasks : List (Task σ α)) (world : World σ) :
    motive tasks world (together setting limit tasks world) := by
  induction tasks, world using together.induct setting limit with
  | case1 tasks world waitless =>
    rw [together]
    simp only [waitless]
    exact finished tasks world waitless
  | case2 tasks world wake found late =>
    rw [together]
    simp only [found, late, if_true]
    exact cut tasks world wake found late
  | case3 tasks world wake found early missing =>
    have some := stepFirst_isSome setting (world.moveTo wake) (soonest_mem found)
    simp [missing] at some
  | case4 tasks world wake found early later after taken ih =>
    obtain ⟨before, task, rest, rfl, first, wakes, rfl, rfl⟩ := stepFirst_some taken
    have inTime : isCut limit wake = false := by simpa using early
    rw [together_of_step found inTime wakes first]
    exact stepped before task rest world wake _ found inTime wakes first ih

section

variable (setting : Setting σ) (limit : Option Instant)

/-- Of several tasks it is the turn of the first one that wakes at an instant: the events belong to its
story. -/
def credit (wake : Instant) (events : List Event) :
    List (Task σ α) → List (List Event) → List (List Event)
  | task :: tasks, own :: others =>
    if task.wake? = some wake then (events ++ own) :: others
    else own :: credit wake events tasks others
  | _, _ => []

theorem credit_eq {wake : Instant} {events own : List Event} {before rest : List (Task σ α)}
    {earlier others : List (List Event)} (aligned : earlier.length = before.length)
    (wakes : task.wake? = some wake) (first : ∀ other ∈ before, other.wake? ≠ some wake) :
    credit wake events (before ++ task :: rest) (earlier ++ own :: others) =
      earlier ++ (events ++ own) :: others := by
  induction before generalizing earlier with
  | nil =>
    rw [List.length_eq_zero_iff.mp aligned]
    exact if_pos wakes
  | cons other before ih =>
    obtain ⟨story, earlier, rfl⟩ := List.exists_cons_of_length_eq_add_one aligned
    obtain ⟨sleeps, firsts⟩ := List.forall_mem_cons.mp first
    rw [List.cons_append, List.cons_append, credit, if_neg sleeps,
      ih (Nat.succ.inj aligned) firsts]
    rfl

/-- The events of each task carried out together with the others, as far as a limit. -/
def stories (tasks : List (Task σ α)) (world : World σ) : List (List Event) :=
  match soonest tasks with
  | none => tasks.map fun _ => []
  | some wake =>
    if isCut limit wake then tasks.map fun _ => []
    else match _stepped : stepFirst setting (world.moveTo wake) tasks with
      | none => tasks.map fun _ => []
      | some (later, after) => credit wake (after.since world) tasks (stories later after)
termination_by tasks
decreasing_by exact stepFirst_follows _stepped

variable {setting limit}

theorem stories_of_waitless (waitless : soonest tasks = none) :
    stories setting limit tasks world = tasks.map fun _ => [] := by
  rw [stories]
  simp only [waitless]

theorem stories_of_cut {wake : Instant} (found : soonest tasks = some wake)
    (late : isCut limit wake) : stories setting limit tasks world = tasks.map fun _ => [] := by
  rw [stories]
  simp only [found, late, if_true]

theorem stories_of_step {wake : Instant} {before rest : List (Task σ α)} {events own : List Event}
    {earlier others : List (List Event)}
    (found : soonest (before ++ task :: rest) = some wake) (early : isCut limit wake = false)
    (wakes : task.wake? = some wake) (first : ∀ other ∈ before, other.wake? ≠ some wake)
    (history : (step setting (world.moveTo wake) task).2.history = events.reverse ++ world.history)
    (aligned : earlier.length = before.length)
    (onward : stories setting limit (before ++ (step setting (world.moveTo wake) task).1 :: rest)
      (step setting (world.moveTo wake) task).2 = earlier ++ own :: others) :
    stories setting limit (before ++ task :: rest) world = earlier ++ (events ++ own) :: others := by
  have taken := stepFirst_eq setting (world.moveTo wake) rest wakes first
  rw [stories]
  simp only [found, early, Bool.false_eq_true, if_false]
  split
  next missing =>
    rw [taken] at missing
    cases missing
  next takenToo =>
    rw [taken] at takenToo
    cases takenToo
    rw [onward, World.since_eq history, credit_eq aligned wakes first]

end

abbrev Life (α : Type) : Type := List Event × Option α

def Lives (identity : Nat → Identity) (tasks : List (Task σ α)) (lives : List (Life α)) : Prop :=
  List.Forall₂ (fun life task => Course identity task life.1 life.2) lives tasks

theorem Lives.unfinished (identity : Nat → Identity) (tasks : List (Task σ α)) :
    Lives identity tasks (tasks.map fun task => ([], task.result?)) := by
  rw [Lives, List.forall₂_map_left_iff, List.forall₂_same]
  intro task _
  exact Course.unfinished task

theorem Lives.of_mem {identity : Nat → Identity} {lives : List (Life α)} {life : Life α}
    (live : Lives identity tasks lives) (member : life ∈ lives) :
    ∃ task ∈ tasks, Course identity task life.1 life.2 := by
  induction live with
  | nil => cases member
  | cons course _ ih =>
    rcases List.mem_cons.mp member with rfl | member
    · exact ⟨_, List.mem_cons_self, course⟩
    · obtain ⟨task, listed, course⟩ := ih member
      exact ⟨task, List.mem_cons_of_mem _ listed, course⟩

theorem forall₂_middle_iff {β γ : Type} {R : β → γ → Prop} {before rest : List γ} {middle : γ}
    {earlier others : List β} {own : β} (aligned : earlier.length = before.length) :
    List.Forall₂ R (earlier ++ own :: others) (before ++ middle :: rest) ↔
      List.Forall₂ R earlier before ∧ R own middle ∧ List.Forall₂ R others rest := by
  induction before generalizing earlier with
  | nil => simp [List.length_eq_zero_iff.mp aligned]
  | cons first before ih =>
    obtain ⟨story, earlier, rfl⟩ := List.exists_cons_of_length_eq_add_one aligned
    simp [ih (Nat.succ.inj aligned), and_assoc]

theorem forall₂_middle {β γ : Type} {R : β → γ → Prop} {before rest : List γ} {middle : γ}
    {list : List β} (paired : List.Forall₂ R list (before ++ middle :: rest)) :
    ∃ earlier own others, list = earlier ++ own :: others ∧ List.Forall₂ R earlier before ∧
      R own middle ∧ List.Forall₂ R others rest := by
  have first := List.forall₂_take_append _ _ _ paired
  have last := List.forall₂_drop_append _ _ _ paired
  obtain ⟨own, others, held, onward, same⟩ := List.forall₂_cons_right_iff.mp last
  refine ⟨_, own, others, ?_, first, held, onward⟩
  rw [← same, List.take_append_drop]

theorem step_history (setting : Setting σ) (world : World σ) (wakes : task.wake? = some world.now) :
    ∃ events : List Event,
      (step setting world task).2.history = events.reverse ++ world.history := by
  obtain ⟨events, _, told⟩ := step_course world wakes (Course.unfinished (step setting world task).1)
  exact ⟨events, told⟩

theorem stories_course (setting : Setting σ) (limit : Option Instant) (tasks : List (Task σ α))
    (world : World σ) :
    ∃ lives told, lives.map Prod.fst = stories setting limit tasks world ∧
      Lives setting.identity tasks lives ∧ Interleaved (lives.map Prod.fst) told ∧
      (together setting limit tasks world).2.history = told.reverse ++ world.history ∧
      ∀ ends, (together setting limit tasks world).1 = some ends →
        lives.map Prod.snd = ends.map some := by
  induction tasks, world using together_induct setting limit with
  | finished tasks world waitless =>
    refine ⟨_, [], ?_, .unfinished _ tasks, .done (by simp), rfl, ?_⟩
    · rw [stories_of_waitless waitless, List.map_map]
      rfl
    · intro ends same
      cases same
      rw [List.map_map]
      exact finished_of_soonest waitless
  | cut tasks world wake found late =>
    refine ⟨_, [], ?_, .unfinished _ tasks, .done (by simp), rfl, nofun⟩
    rw [stories_of_cut found late, List.map_map]
    rfl
  | stepped before task rest world wake run found early wakes turn ih =>
    obtain ⟨lives, told, same, live, whole, history, ended⟩ := ih
    -- what the step notes comes first in the story of its task and in the whole
    obtain ⟨earlier, life, others, rfl, first, course, onward⟩ := forall₂_middle live
    obtain ⟨events, course, took⟩ := step_course (world.moveTo wake) wakes course
    refine ⟨earlier ++ (events ++ life.1, life.2) :: others, events ++ told, ?_,
      List.rel_append first (.cons course onward), ?_, ?_, ?_⟩
    · have aligned : (earlier.map Prod.fst).length = before.length := by
        rw [List.length_map]
        exact first.length_eq
      rw [List.map_append, List.map_cons] at same ⊢
      exact (stories_of_step found early wakes turn took aligned same.symm).symm
    · rw [List.map_append, List.map_cons] at whole ⊢
      exact whole.prepend events
    · rw [history, took, List.reverse_append, List.append_assoc]
      rfl
    · intro ends same
      simpa using ended ends same

theorem stories_split (setting : Setting σ) (limit : Option Instant) (before : List (Task σ α))
    (task : Task σ α) (rest : List (Task σ α)) (world : World σ) :
    ∃ earlier own others, stories setting limit (before ++ task :: rest) world =
      earlier ++ own :: others ∧ earlier.length = before.length := by
  obtain ⟨lives, _, same, live, _⟩ := stories_course setting limit (before ++ task :: rest) world
  obtain ⟨earlier, life, others, rfl, first, _⟩ := forall₂_middle live
  refine ⟨earlier.map Prod.fst, life.1, others.map Prod.fst, ?_, ?_⟩
  · rw [← same, List.map_append, List.map_cons]
  · rw [List.length_map]
    exact first.length_eq

theorem length_stories (setting : Setting σ) (limit : Option Instant) (tasks : List (Task σ α))
    (world : World σ) : (stories setting limit tasks world).length = tasks.length := by
  obtain ⟨lives, _, same, live, _⟩ := stories_course setting limit tasks world
  rw [← same, List.length_map]
  exact live.length_eq

theorem together_unlimited (setting : Setting σ) (tasks : List (Task σ α)) (world : World σ) :
    ∃ ends, (together setting none tasks world).1 = some ends := by
  induction tasks, world using together_induct setting none with
  | finished tasks world => exact ⟨_, rfl⟩
  | cut tasks world wake found late => cases late
  | stepped _ _ _ _ _ _ _ _ _ _ ih => exact ih

theorem together_course (setting : Setting σ) (limit : Option Instant) (tasks : List (Task σ α))
    (world : World σ) :
    ∃ lives told, Lives setting.identity tasks lives ∧ Interleaved (lives.map Prod.fst) told ∧
      (together setting limit tasks world).2.history = told.reverse ++ world.history ∧
      ∀ ends, (together setting limit tasks world).1 = some ends →
        lives.map Prod.snd = ends.map some := by
  obtain ⟨lives, told, _, course⟩ := stories_course setting limit tasks world
  exact ⟨lives, told, course⟩

end Task

end DeliveryCheck
