import DeliveryCheck.Proofs.Text.Stretch
import DeliveryCheck.Text.Reader

namespace DeliveryCheck

namespace Reader

variable {α β : Type} {item other : Reader α} {own text rest : List Char} {value : α}

/-- With `rest` behind it, `own` is read off as a value. -/
def Reads (item : Reader α) (own rest : List Char) (value : α) : Prop :=
  item (own ++ rest) = some (value, rest)

theorem bind_of_refuses {next : α → Reader β} (refuses : item text = none) :
    (item >>= next) text = none := by
  change (item text).bind _ = _
  rw [refuses]
  rfl

theorem map_of_refuses {f : α → β} (refuses : item text = none) : (f <$> item) text = none := by
  change (item text).bind _ = _
  rw [refuses]
  rfl

theorem orElse_of_refuses (refuses : item text = none) : (item <|> other) text = other text := by
  change (item text).orElse _ = _
  rw [refuses]
  rfl

theorem one_of_stops {allowed : Char → Bool} (stops : Stops allowed text) : one allowed text = none := by
  cases text with
  | nil => rfl
  | cons c rest => exact if_neg (ne_true_of_eq_false (stops c rfl))

theorem char_of_stops {c : Char} (stops : Stops (· == c) text) : char c text = none :=
  bind_of_refuses (one_of_stops stops)

namespace Reads

theorem pure : Reads (Pure.pure value) [] rest value := rfl

theorem bind {next : α → Reader β} {behind : List Char} {result : β}
    (reads : Reads item own (behind ++ rest) value) (onward : Reads (next value) behind rest result) :
    Reads (item >>= next) (own ++ behind) rest result := by
  unfold Reads at reads onward ⊢
  change (item _).bind _ = _
  rw [List.append_assoc, reads]
  exact onward

theorem bind_refuses {next : α → Reader β} (reads : Reads item own rest value)
    (refuses : next value rest = none) : (item >>= next) (own ++ rest) = none := by
  change (item _).bind _ = _
  rw [reads]
  exact refuses

theorem map {f : α → β} (reads : Reads item own rest value) : Reads (f <$> item) own rest (f value) := by
  unfold Reads at reads ⊢
  change (item _).bind _ = _
  rw [reads]
  rfl

theorem seqRight {next : Reader β} {behind : List Char} {result : β}
    (reads : Reads item own (behind ++ rest) value) (onward : Reads next behind rest result) :
    Reads (item *> next) (own ++ behind) rest result := bind reads onward

theorem seqLeft {next : Reader β} {behind : List Char} {result : β}
    (reads : Reads item own (behind ++ rest) value) (onward : Reads next behind rest result) :
    Reads (item <* next) (own ++ behind) rest value := by
  have ended : Reads (next >>= fun _ => Pure.pure value) (behind ++ []) rest value := onward.bind pure
  rw [List.append_nil] at ended
  exact reads.bind ended

theorem lift {answer : Option α} (answers : answer = some value) :
    Reads (liftM answer) [] rest value := by
  rw [answers]
  rfl

theorem orElse_left (reads : Reads item own rest value) : Reads (item <|> other) own rest value := by
  unfold Reads at reads ⊢
  change (item _).orElse _ = _
  rw [reads]
  rfl

theorem orElse_right (refuses : item (own ++ rest) = none) (reads : Reads other own rest value) :
    Reads (item <|> other) own rest value :=
  (orElse_of_refuses refuses).trans reads

theorem one {allowed : Char → Bool} {c : Char} (allows : allowed c) :
    Reads (one allowed) [c] rest c := if_pos allows

theorem char (c : Char) : Reads (char c) [c] rest () := by
  have first : Reads (Reader.one (· == c)) [c] rest c := one (beq_self_eq_true c)
  change Reads (Reader.one (· == c) >>= fun _ => Pure.pure ()) ([c] ++ []) rest ()
  refine first.bind ?_
  exact pure

theorem word (letters : List Char) : Reads (word letters) letters rest () := by
  induction letters with
  | nil => exact pure
  | cons c letters ih => exact bind (char c) ih

theorem run {allowed : Char → Bool} (stops : Stops allowed rest) (all : ∀ c ∈ own, allowed c) :
    Reads (run allowed) own rest own := by
  rw [Reads, Reader.run, stops.takeWhile_append all, stops.dropWhile_append all]

theorem run1 {allowed : Char → Bool} (stops : Stops allowed rest) (all : ∀ c ∈ own, allowed c)
    (filled : own ≠ []) : Reads (run1 allowed) own rest own := by
  cases own with
  | nil => exact absurd rfl filled
  | cons c own =>
    have first : Reads (Reader.one allowed) [c] (own ++ rest) c := one (all c (List.mem_cons_self ..))
    have others : Reads (Reader.run allowed) own rest own :=
      run stops fun other member => all other (List.mem_cons_of_mem _ member)
    exact bind first (map others)

theorem field {allowed : Char → Bool} {count : Nat} (all : ∀ c ∈ own, allowed c)
    (length : own.length = count) : Reads (field allowed count) own rest own := by
  induction own generalizing count with
  | nil =>
    rw [← length]
    exact pure
  | cons c own ih =>
    have first : Reads (Reader.one allowed) [c] (own ++ rest) c := one (all c (List.mem_cons_self ..))
    have others := ih (fun other member => all other (List.mem_cons_of_mem _ member)) rfl
    rw [← length]
    exact bind first (map others)

theorem many {write : α → List Char} (good : List Char → Prop) {values : List α}
    (reads : ∀ value ∈ values, ∀ rest, good rest → Reads item (write value) rest value)
    (filled : ∀ value, write value ≠ []) (onward : ∀ value rest, good (write value ++ rest))
    (ends : good rest) (refuses : item rest = none) :
    Reads (many item) (values.flatMap write) rest values := by
  change some _ = _
  congr 1
  induction values with
  | nil => rw [List.flatMap_nil, List.nil_append, collect, refuses]
  | cons value values ih =>
    have follows : good (values.flatMap write ++ rest) := by
      cases values with
      | nil => exact ends
      | cons next values =>
        rw [List.flatMap_cons, List.append_assoc]
        exact onward next _
    have first : item (write value ++ (values.flatMap write ++ rest)) =
      some (value, values.flatMap write ++ rest) := reads value (List.mem_cons_self ..) _ follows
    have shorter : (values.flatMap write ++ rest).length <
        (write value ++ (values.flatMap write ++ rest)).length := by
      have written := List.length_pos_iff.mpr (filled value)
      have whole : (write value ++ (values.flatMap write ++ rest)).length =
        (write value).length + (values.flatMap write ++ rest).length := List.length_append
      omega
    rw [List.flatMap_cons, List.append_assoc, collect, first]
    simp only [if_pos shorter, ih fun other member => reads other (List.mem_cons_of_mem _ member)]

theorem whole? (reads : Reads item text [] value) : whole? item text = some value := by
  have read : item text = some (value, []) := by simpa [Reads] using reads
  change (((item text).bind _).map _) = _
  rw [read]
  rfl

end Reads

end Reader

end DeliveryCheck
