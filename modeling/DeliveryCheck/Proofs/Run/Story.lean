import DeliveryCheck.Run.Execution
import DeliveryCheck.Proofs.Run.Reports

namespace DeliveryCheck

namespace Event

/-- Whether an event is the doing of a check: a call of the store, or a phase that it enters. -/
def isOfCheck : Event → Bool
  | .inserted .. | .read .. | .entered _ => true
  | .reported .. | .printed _ | .closed _ => false

def line? : Event → Option String
  | .printed text => some text
  | .inserted .. | .read .. | .entered _ | .reported .. | .closed _ => none

def closes : Event → Bool
  | .closed _ => true
  | .inserted .. | .read .. | .entered _ | .reported .. | .printed _ => false

theorem result?_of_isOfCheck {event : Event} (own : event.isOfCheck) : event.result? = none := by
  cases event with
  | reported => cases own
  | inserted | read | entered | printed | closed => rfl

theorem line?_of_isOfCheck {event : Event} (own : event.isOfCheck) : event.line? = none := by
  cases event with
  | printed => cases own
  | inserted | read | entered | reported | closed => rfl

theorem closes_of_isOfCheck {event : Event} (own : event.isOfCheck) : event.closes = false := by
  cases event with
  | closed => cases own
  | inserted | read | entered | reported | printed => rfl

theorem filterMap_line?_printed (lines : List String) :
    (lines.map Event.printed).filterMap line? = lines := by
  rw [List.filterMap_map]
  exact List.filterMap_some

theorem filterMap_result?_printed (lines : List String) :
    (lines.map Event.printed).filterMap result? = [] := by simp [result?]

theorem filter_closes_printed (lines : List String) :
    (lines.map Event.printed).filter closes = [] := by simp [closes]

theorem filter_isCall_printed (lines : List String) :
    (lines.map Event.printed).filter isCall = [] := by simp [isCall]

end Event

variable {σ α : Type} {identity : Nat → Identity} {story : List Event}

theorem World.printed_eq (world : World σ) :
    world.printed = world.history.reverse.filterMap Event.line? := by
  rw [printed]
  congr 1
  funext event
  cases event <;> rfl

theorem World.reported_print (lines : List String) (world : World σ) :
    (world.print lines).reported = world.reported := by
  rw [reported_eq, reported_eq, print_eq, List.reverse_append, List.reverse_reverse,
    List.filterMap_append, Event.filterMap_result?_printed, List.append_nil]

theorem Procedure.Course.isOfCheck {procedure : Procedure α} {now ended : Instant} {result : Option α}
    (course : procedure.Course identity now story ended result) :
    ∀ event ∈ story, event.isOfCheck := by
  induction course with
  | cut | done => simp
  | pause _ ih => exact ih
  | enter _ ih | insert _ _ ih | read _ _ ih => exact List.forall_mem_cons.mpr ⟨rfl, ih⟩

theorem Task.Course.isOfCheck {task : Task σ α} {result : Option α}
    (course : task.Course identity story result) : ∀ event ∈ story, event.isOfCheck := by
  cases course with
  | cut | finished => simp
  | ready course => exact course.isOfCheck
  | inserted course | answered course => exact List.forall_mem_cons.mpr ⟨rfl, course.isOfCheck⟩

theorem Task.together_isOfCheck (setting : Setting σ) (limit : Option Instant)
    (tasks : List (Task σ α)) (world : World σ) :
    ∃ story : List Event, (together setting limit tasks world).2.history = story.reverse ++ world.history ∧
      ∀ event ∈ story, event.isOfCheck := by
  obtain ⟨lives, told, live, whole, history, _⟩ := together_course setting limit tasks world
  refine ⟨told, history, fun event member => ?_⟩
  obtain ⟨story, listed, member⟩ := whole.mem_iff.mp member
  obtain ⟨life, lived, rfl⟩ := List.mem_map.mp listed
  obtain ⟨task, _, course⟩ := live.of_mem lived
  exact course.isOfCheck event member

namespace Run

def reportLines (report : ReportOptions) (planned : Nat) (results : List ScenarioResult)
    (verdict : Except Error Unit) : List String :=
  opening report ++ results.flatMap (announcement report) ++ closing report planned results verdict

theorem reportLines_json {report : ReportOptions} {planned : Nat} {results : List ScenarioResult}
    {verdict : Except Error Unit} (json : report.json = true) :
    reportLines report planned results verdict = closing report planned results verdict := by
  simp [reportLines, opening, announcement, json]

theorem reportLines_console {report : ReportOptions} {planned : Nat} {results : List ScenarioResult}
    {verdict : Except Error Unit} (console : report.json = false) :
    reportLines report planned results verdict =
      Report.headerLines report.colours ++ results.map (Report.resultLine report.colours) ++
        closing report planned results verdict := by
  have each : announcement report = fun result => [Report.resultLine report.colours result] := by
    funext result
    simp [announcement, console]
  rw [reportLines, each, ← List.map_eq_flatMap, opening, console, if_neg Bool.false_ne_true]

theorem reportLines_aborted_json {report : ReportOptions} {planned : Nat}
    {results : List ScenarioResult} {fault : Error} (json : report.json = true) :
    reportLines report planned results (.error fault) =
      [(Report.abortedSummary results).json.pretty] := by
  rw [reportLines_json json, closing, if_pos json, Report.Summary.text]

theorem reportLines_aborted_console {report : ReportOptions} {planned : Nat}
    {results : List ScenarioResult} {fault : Error} (console : report.json = false) :
    reportLines report planned results (.error fault) =
      Report.headerLines report.colours ++ results.map (Report.resultLine report.colours) ++
        [Report.header report.colours Report.rule,
          Report.abortedLine report.colours planned results] := by
  rw [reportLines_console console, closing, console, if_neg Bool.false_ne_true]

/-- The events of a run, and the results that it hands over. -/
inductive Story (announce : ScenarioResult → List String) :
    List Event → List ScenarioResult → Prop where
  | nil : Story announce [] []
  | check {event story results} (own : event.isOfCheck) (rest : Story announce story results) :
    Story announce (event :: story) results
  | handed {instant result story results} (rest : Story announce story results) :
    Story announce (.reported instant result :: ((announce result).map Event.printed ++ story))
      (result :: results)

namespace Story

variable {announce : ScenarioResult → List String} {results others : List ScenarioResult}
  {before : List Event}

theorem of_checks (own : ∀ event ∈ story, event.isOfCheck) : Story announce story [] := by
  induction story with
  | nil => exact .nil
  | cons event rest ih =>
    obtain ⟨first, others⟩ := List.forall_mem_cons.mp own
    exact .check first (ih others)

theorem append (first : Story announce before results) (second : Story announce story others) :
    Story announce (before ++ story) (results ++ others) := by
  induction first with
  | nil => exact second
  | check own _ ih => exact .check own ih
  | handed _ ih =>
    rw [List.cons_append, List.cons_append, List.append_assoc]
    exact .handed ih

theorem results_eq (told : Story announce story results) :
    story.filterMap Event.result? = results := by
  induction told with
  | nil => rfl
  | check own _ ih => rw [List.filterMap_cons_none (Event.result?_of_isOfCheck own), ih]
  | @handed instant result _ _ _ ih =>
    have shown : Event.result? (.reported instant result) = some result := rfl
    rw [List.filterMap_cons_some shown, List.filterMap_append, Event.filterMap_result?_printed, ih,
      List.nil_append]

theorem lines_eq (told : Story announce story results) :
    story.filterMap Event.line? = results.flatMap announce := by
  induction told with
  | nil => rfl
  | check own _ ih => rw [List.filterMap_cons_none (Event.line?_of_isOfCheck own), ih]
  | handed _ ih =>
    rw [List.filterMap_cons_none rfl, List.filterMap_append, Event.filterMap_line?_printed, ih,
      List.flatMap_cons]

theorem of_reported {world : World σ} {opening closing : List String} {instant : Instant}
    (told : Story announce story results)
    (history : world.history.reverse = opening.map Event.printed ++ story ++
      .closed instant :: closing.map Event.printed) :
    world.reported = results ∧ world.printed = opening ++ results.flatMap announce ++ closing := by
  rw [World.reported_eq, World.printed_eq, history]
  simp only [List.filterMap_append, Event.filterMap_result?_printed, Event.filterMap_line?_printed,
    told.results_eq, told.lines_eq]
  rw [List.filterMap_cons_none rfl, List.filterMap_cons_none rfl, Event.filterMap_result?_printed,
    Event.filterMap_line?_printed, List.nil_append, List.append_nil]
  exact ⟨rfl, rfl⟩

theorem unclosed (told : Story announce story results) : story.filter Event.closes = [] := by
  induction told with
  | nil => rfl
  | check own _ ih =>
    have silent := Event.closes_of_isOfCheck own
    rw [List.filter_cons_of_neg (by simp [silent]), ih]
  | handed _ ih =>
    rw [List.filter_cons_of_neg (by simp [Event.closes]), List.filter_append,
      Event.filter_closes_printed, ih, List.nil_append]

end Story

variable (setting : Setting σ) (announce : ScenarioResult → List String)

theorem inTurn_story (limit : Option Instant) (scenarios : List Scenario) (world : World σ) :
    ∃ story results, Story announce story results ∧
      (inTurn setting announce limit scenarios world).2.history =
        story.reverse ++ world.history := by
  induction scenarios generalizing world with
  | nil => exact ⟨[], [], .nil, rfl⟩
  | cons scenario rest ih =>
    obtain ⟨story, course, history⟩ :=
      Procedure.alone_course setting limit (begin setting world scenario) world
    have told : Story announce story [] := .of_checks course.isOfCheck
    rw [inTurn]
    split
    next after ends =>
      rw [ends] at history
      exact ⟨story, [], told, history⟩
    next fault after ends =>
      rw [ends] at history
      exact ⟨story, [], told, history⟩
    next result after ends =>
      rw [ends] at history
      obtain ⟨onward, results, toldOnward, later⟩ := ih (after.report announce result)
      refine ⟨story ++ .reported after.now result :: ((announce result).map Event.printed ++ onward),
        result :: results, told.append (.handed toldOnward), ?_⟩
      rw [later, World.history_report, history]
      simp

theorem handOver_story (ends : List (Except Error ScenarioResult)) (world : World σ) :
    ∃ story results, Story announce story results ∧
      (handOver announce ends world).2.history = story.reverse ++ world.history := by
  induction ends generalizing world with
  | nil => exact ⟨[], [], .nil, rfl⟩
  | cons first rest ih =>
    cases first with
    | error fault => exact ih world
    | ok result =>
      obtain ⟨story, results, told, history⟩ := ih (world.report announce result)
      refine ⟨.reported world.now result :: ((announce result).map Event.printed ++ story),
        result :: results, .handed told, ?_⟩
      rw [handOver, history, World.history_report]
      simp

theorem atOnce_story (limit : Option Instant) (scenarios : List Scenario) (world : World σ) :
    ∃ story results, Story announce story results ∧
      (atOnce setting announce limit scenarios world).2.history =
        story.reverse ++ world.history := by
  obtain ⟨story, history, own⟩ := Task.together_isOfCheck setting limit
    (scenarios.map fun scenario => Task.ready world.now (begin setting world scenario)) world
  have told : Story announce story [] := .of_checks own
  rw [atOnce]
  split
  next stopped =>
    rw [stopped] at history
    exact ⟨story, [], told, history⟩
  next ends after finished =>
    rw [finished] at history
    obtain ⟨onward, results, toldOnward, later⟩ := handOver_story announce ends after
    refine ⟨story ++ onward, results, told.append toldOnward, ?_⟩
    rw [later, history]
    simp

theorem all_story (options : RunOptions) (scenarios : List Scenario) (world : World σ) :
    ∃ story results, Story announce story results ∧
      (all setting announce options scenarios world).2.history = story.reverse ++ world.history := by
  rw [all]
  cases options.concurrent with
  | true => exact atOnce_story setting announce _ scenarios world
  | false => exact inTurn_story setting announce _ scenarios world

variable (options : RunOptions) (report : ReportOptions) (scenarios : List Scenario) (now : Instant)
  (state : σ) (issued : Nat)

def ranWithin : Except Error Unit × World σ :=
  all setting (announcement report) options scenarios
    ((⟨now, state, issued, []⟩ : World σ).print (opening report))

theorem execute_fst :
    (execute setting options report scenarios ⟨now, state, issued, []⟩).1 =
      (ranWithin setting options report scenarios now state issued).1.map fun _ =>
        (ranWithin setting options report scenarios now state issued).2.reported := by
  unfold execute ranWithin
  rfl

theorem execute_snd :
    (execute setting options report scenarios ⟨now, state, issued, []⟩).2 =
      ((ranWithin setting options report scenarios now state issued).2.close setting.store).print
        (closing report scenarios.length
          (ranWithin setting options report scenarios now state issued).2.reported
          (ranWithin setting options report scenarios now state issued).1) := by
  unfold execute ranWithin
  rfl

theorem ranWithin_story :
    ∃ story results, Story (announcement report) story results ∧
      (ranWithin setting options report scenarios now state issued).2.history.reverse =
        (opening report).map Event.printed ++ story ∧
      (ranWithin setting options report scenarios now state issued).2.reported = results := by
  obtain ⟨story, results, told, history⟩ := all_story setting (announcement report) options scenarios
    ((⟨now, state, issued, []⟩ : World σ).print (opening report))
  have opened : ((⟨now, state, issued, []⟩ : World σ).print (opening report)).history =
      ((opening report).map Event.printed).reverse := by
    rw [World.print_eq, List.append_nil]
  have whole : (ranWithin setting options report scenarios now state issued).2.history.reverse =
      (opening report).map Event.printed ++ story := by
    rw [ranWithin, history, opened, List.reverse_append, List.reverse_reverse, List.reverse_reverse]
  refine ⟨story, results, told, whole, ?_⟩
  rw [World.reported_eq, whole, List.filterMap_append, Event.filterMap_result?_printed,
    told.results_eq, List.nil_append]

theorem execute_story :
    let ran := ranWithin setting options report scenarios now state issued
    let done := execute setting options report scenarios ⟨now, state, issued, []⟩
    ∃ story results, Story (announcement report) story results ∧
      ran.2.history.reverse = (opening report).map Event.printed ++ story ∧
      ran.2.reported = results ∧
      done.1 = ran.1.map (fun _ => results) ∧
      done.2.history.reverse = (opening report).map Event.printed ++ story ++
        .closed ran.2.now ::
          (closing report scenarios.length results ran.1).map Event.printed := by
  obtain ⟨story, results, told, whole, handed⟩ :=
    ranWithin_story setting options report scenarios now state issued
  refine ⟨story, results, told, whole, handed, ?_, ?_⟩
  · rw [execute_fst, handed]
  · rw [execute_snd, handed, World.print_eq, World.close, List.reverse_append, List.reverse_reverse,
      World.history_note, List.reverse_cons, World.withState, whole, List.append_assoc]
    rfl

end Run

end DeliveryCheck
