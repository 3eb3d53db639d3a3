import DeliveryCheck.Proofs.Text.Quoted
import DeliveryCheck.Report.Result

namespace DeliveryCheck

namespace Decimal

def isNumeral (c : Char) : Bool := c.isDigit || c == '-'

theorem isNumeral_of_mem_integer {i : Int} {c : Char} (member : c ∈ (integer i).toList) :
    isNumeral c := by
  cases i with
  | ofNat n => simp [isNumeral, isDigit_of_mem_natural (n := n) member]
  | negSucc n =>
    rw [integer, String.toList_append, List.mem_append] at member
    rcases member with sign | digit
    · have shown : c = '-' := by simpa using sign
      simp [isNumeral, shown]
    · simp [isNumeral, isDigit_of_mem_natural digit]

end Decimal

namespace Status

theorem boolText_unique {own other : Bool} {rest after : String}
    (same : boolText own ++ rest = boolText other ++ after) : own = other ∧ rest = after := by
  have differ : ∀ rest after : String, "true" ++ rest ≠ "false" ++ after := by
    intro rest after same
    have letters := congrArg String.toList same
    simp at letters
  cases own with
  | true =>
    cases other with
    | true => exact ⟨rfl, (String.append_right_inj _).mp same⟩
    | false => exact absurd same (differ rest after)
  | false =>
    cases other with
    | true => exact absurd same.symm (differ after rest)
    | false => exact ⟨rfl, (String.append_right_inj _).mp same⟩

theorem lastErrorText_none : lastErrorText none = "" := rfl

theorem lastErrorText_some (reason : String) :
    lastErrorText (some reason) = ", last_error=" ++ quoted reason := rfl

theorem stops_lastErrorText (reason : Option String) :
    Stops Decimal.isNumeral (lastErrorText reason).toList := by
  cases reason with
  | none => exact .nil
  | some reason => exact .text (by decide)

theorem lastErrorText_inj {reason other : Option String} :
    lastErrorText reason = lastErrorText other ↔ reason = other := by
  have written : ∀ reason, lastErrorText (some reason) ≠ lastErrorText none := by
    intro reason same
    rw [lastErrorText_some, lastErrorText_none] at same
    have letters := congrArg String.toList same
    simp at letters
  cases reason with
  | none =>
    cases other with
    | none => exact ⟨fun _ => rfl, fun _ => rfl⟩
    | some reason => exact ⟨fun same => absurd same.symm (written reason), nofun⟩
  | some reason =>
    cases other with
    | none => exact ⟨fun same => absurd same (written reason), nofun⟩
    | some other =>
      rw [lastErrorText_some, lastErrorText_some, String.append_right_inj, quoted_inj, Option.some_inj]

theorem text_eq (status : Status) :
    status.text = "is_processed=" ++ (boolText status.processed ++
      (", error_count=" ++ (Decimal.integer status.errorCount ++ lastErrorText status.lastError))) := by
  change "is_processed=" ++ boolText status.processed ++ ", error_count=" ++
    Decimal.integer status.errorCount ++ lastErrorText status.lastError = _
  rw [String.append_assoc, String.append_assoc, String.append_assoc]

@[simp] theorem text_inj {status other : Status} : status.text = other.text ↔ status = other := by
  constructor
  · intro same
    obtain ⟨processed, count, reason⟩ := status
    obtain ⟨processedToo, countToo, reasonToo⟩ := other
    rw [text_eq, text_eq, String.append_right_inj] at same
    obtain ⟨flags, behind⟩ := boolText_unique same
    rw [String.append_right_inj] at behind
    obtain ⟨counts, reasons⟩ := (stops_lastErrorText reason).unique_text
      (stops_lastErrorText reasonToo) (fun _ => Decimal.isNumeral_of_mem_integer)
      (fun _ => Decimal.isNumeral_of_mem_integer) behind
    rw [mk.injEq]
    exact ⟨flags, Decimal.integer_inj.mp counts, lastErrorText_inj.mp reasons⟩
  · exact congrArg text

end Status

namespace Duration

def isTenthsChar (c : Char) : Bool := c.isDigit || c == '.'

theorem isTenthsChar_of_mem {length : Duration} {c : Char} (member : c ∈ length.tenthsText.toList) :
    isTenthsChar c := by
  simp only [tenthsText, String.toList_append, List.mem_append] at member
  rcases member with (whole | point) | tenth
  · simp [isTenthsChar, Decimal.isDigit_of_mem_natural whole]
  · have shown : c = '.' := by simpa using point
    simp [isTenthsChar, shown]
  · simp [isTenthsChar, Decimal.isDigit_of_mem_natural tenth]

theorem tenthsText_inj {length other : Duration} :
    length.tenthsText = other.tenthsText ↔ length.tenths = other.tenths := by
  constructor
  · intro same
    have stops : ∀ n, Stops Char.isDigit ("." ++ Decimal.natural n).toList :=
      fun _ => .text (by decide)
    rw [tenthsText, tenthsText, String.append_assoc, String.append_assoc] at same
    obtain ⟨wholes, points⟩ := (stops _).unique_text (stops _)
      (fun _ => Decimal.isDigit_of_mem_natural) (fun _ => Decimal.isDigit_of_mem_natural) same
    rw [String.append_right_inj, Decimal.natural_inj] at points
    rw [Decimal.natural_inj] at wholes
    omega
  · intro same
    rw [tenthsText, tenthsText, same]

end Duration

namespace Failure

/-- The same way of failing, with the same seen of the record, after waits that are equal in tenths of
seconds. -/
def SameDiagnosis : Failure → Failure → Prop
  | .processedEarly status, .processedEarly other => status = other
  | .notVisible, .notVisible => True
  | .timedOut last waited observations, .timedOut other waitedToo observationsToo =>
    last = other ∧ observations = observationsToo ∧ waited.tenths = waitedToo.tenths
  | .regressed status, .regressed other => status = other
  | _, _ => False

def sightings (observations : Nat) : Option Status → String
  | none => "record never observed (" ++ (Decimal.natural observations ++ " reads)")
  | some status =>
    "never processed (" ++ (Decimal.natural observations ++ (" reads, last: " ++ (status.text ++ ")")))

theorem diagnostic_processedEarly (status : Status) :
    (processedEarly status).diagnostic = "processed too early (" ++ status.text ++ ")" := rfl

theorem diagnostic_regressed (status : Status) :
    (regressed status).diagnostic = "processed state reverted (" ++ status.text ++ ")" := rfl

theorem sightings_none (observations : Nat) :
    sightings observations none =
      "record never observed (" ++ (Decimal.natural observations ++ " reads)") := rfl

theorem sightings_some (observations : Nat) (status : Status) :
    sightings observations (some status) =
      "never processed (" ++
        (Decimal.natural observations ++ (" reads, last: " ++ (status.text ++ ")"))) := rfl

theorem diagnostic_timedOut (last : Option Status) (waited : Duration) (observations : Nat) :
    (timedOut last waited observations).diagnostic =
      "timed out after " ++ (waited.tenthsText ++ ("s: " ++ sightings observations last)) := by
  cases last with
  | none =>
    change "timed out after " ++ waited.tenthsText ++ "s: record never observed (" ++
      Decimal.natural observations ++ " reads)" = _
    rw [sightings_none]
    simp [← String.toList_inj]
  | some status =>
    change "timed out after " ++ waited.tenthsText ++ "s: never processed (" ++
      Decimal.natural observations ++ " reads, last: " ++ status.text ++ ")" = _
    rw [sightings_some]
    simp [← String.toList_inj]

theorem sightings_none_ne_some {m n : Nat} {status : Status} :
    sightings m none ≠ sightings n (some status) := by
  intro same
  rw [sightings_none, sightings_some] at same
  have letters := congrArg String.toList same
  simp at letters

theorem sightings_inj {last other : Option Status} {m n : Nat} :
    sightings m last = sightings n other ↔ last = other ∧ m = n := by
  constructor
  · intro same
    cases last with
    | none =>
      cases other with
      | none =>
        rw [sightings_none, sightings_none, String.append_right_inj, String.append_left_inj,
          Decimal.natural_inj] at same
        exact ⟨rfl, same⟩
      | some status => exact absurd same sightings_none_ne_some
    | some status =>
      cases other with
      | none => exact absurd same.symm sightings_none_ne_some
      | some statusToo =>
        have stops : ∀ shown, Stops Char.isDigit (" reads, last: " ++ shown).toList :=
          fun _ => .text (by decide)
        rw [sightings_some, sightings_some, String.append_right_inj] at same
        obtain ⟨counts, lasts⟩ := (stops _).unique_text (stops _)
          (fun _ => Decimal.isDigit_of_mem_natural) (fun _ => Decimal.isDigit_of_mem_natural) same
        rw [String.append_right_inj, String.append_left_inj, Status.text_inj] at lasts
        exact ⟨congrArg some lasts, Decimal.natural_inj.mp counts⟩
  · rintro ⟨rfl, rfl⟩
    rfl

theorem timedOut_inj {last other : Option Status} {waited waitedToo : Duration} {m n : Nat} :
    (timedOut last waited m).diagnostic = (timedOut other waitedToo n).diagnostic ↔
      last = other ∧ m = n ∧ waited.tenths = waitedToo.tenths := by
  have stops : ∀ shown, Stops Duration.isTenthsChar ("s: " ++ shown).toList :=
    fun _ => .text (by decide)
  rw [diagnostic_timedOut, diagnostic_timedOut, String.append_right_inj]
  constructor
  · intro same
    obtain ⟨waits, seen⟩ := (stops _).unique_text (stops _)
      (fun _ => Duration.isTenthsChar_of_mem) (fun _ => Duration.isTenthsChar_of_mem) same
    rw [String.append_right_inj, sightings_inj] at seen
    exact ⟨seen.1, seen.2, Duration.tenthsText_inj.mp waits⟩
  · rintro ⟨rfl, rfl, tenths⟩
    rw [Duration.tenthsText_inj.mpr tenths]

/-- The eleventh letter of a diagnostic, which no two ways of failing share. -/
def letter : Failure → Char
  | .processedEarly _ => 't'
  | .notVisible => ' '
  | .timedOut .. => 'a'
  | .regressed _ => 's'

theorem diagnostic_letter (failure : Failure) : failure.diagnostic.toList[10]? = some failure.letter := by
  have early : ∀ {lead : String} {c : Char} (rest : String), lead.toList[10]? = some c →
      (lead ++ rest).toList[10]? = some c := by
    intro lead c rest letter
    obtain ⟨within, _⟩ := List.getElem?_eq_some_iff.mp letter
    rw [String.toList_append, List.getElem?_append_left within, letter]
  have processed : ("processed too early (" : String).toList[10]? = some 't' := by decide
  have timed : ("timed out after " : String).toList[10]? = some 'a' := by decide
  have reverted : ("processed state reverted (" : String).toList[10]? = some 's' := by decide
  cases failure with
  | processedEarly status =>
    rw [diagnostic_processedEarly, String.append_assoc]
    exact early _ processed
  | notVisible => decide
  | timedOut last waited observations =>
    rw [diagnostic_timedOut]
    exact early _ timed
  | regressed status =>
    rw [diagnostic_regressed, String.append_assoc]
    exact early _ reverted

/-- A diagnostic tells the way of failing and all that was seen of the record. -/
theorem diagnostic_eq_iff (failure other : Failure) :
    failure.diagnostic = other.diagnostic ↔ failure.SameDiagnosis other := by
  by_cases letters : failure.letter = other.letter
  · -- only the four pairs of the same way of failing are left
    cases failure <;> cases other
    case processedEarly.processedEarly =>
      simp only [diagnostic_processedEarly, String.append_left_inj, String.append_right_inj, Status.text_inj,
        SameDiagnosis]
    case notVisible.notVisible => exact ⟨fun _ => trivial, fun _ => rfl⟩
    case timedOut.timedOut => exact timedOut_inj
    case regressed.regressed =>
      simp only [diagnostic_regressed, String.append_left_inj, String.append_right_inj, Status.text_inj,
        SameDiagnosis]
    all_goals simp [letter] at letters
  · have differ : failure.diagnostic ≠ other.diagnostic := by
      intro same
      have shown := diagnostic_letter failure
      rw [same, diagnostic_letter other] at shown
      exact letters (Option.some.inj shown).symm
    refine ⟨fun same => absurd same differ, fun agrees => absurd ?_ letters⟩
    cases failure <;> cases other <;> first | rfl | exact agrees.elim

end Failure

end DeliveryCheck
