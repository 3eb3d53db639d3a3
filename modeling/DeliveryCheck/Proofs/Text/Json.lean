import DeliveryCheck.Proofs.Text.Quoted
import DeliveryCheck.Proofs.Text.Reader
import DeliveryCheck.Text.Json
/-!
JSON read back. The reader knows the grammar and nothing of how a document is laid out; what is written of a
document tells it that document, whatever strings and numbers are in there.
-/

namespace DeliveryCheck

namespace Json

open Reader

def isGap (c : Char) : Bool := c == ' ' || c == '\n' || c == '\r' || c == '\t'

def gap : Reader Unit := (fun _ => ()) <$> run isGap

def sign (c : Char) : Reader Unit := do
  gap
  char c

def unescape? : Char → Option Char
  | '"' => some '"'
  | '\\' => some '\\'
  | '/' => some '/'
  | 'b' => some '\x08'
  | 'f' => some '\x0c'
  | 'n' => some '\n'
  | 'r' => some '\r'
  | 't' => some '\t'
  | _ => none

def codePoint : Reader Char := do
  let digits ← field Hexadecimal.isDigit 4
  (Hexadecimal.charOf? digits : Option Char)

def escaped : Reader Char := do
  let kind ← one fun _ => true
  if kind == 'u' then codePoint else (unescape? kind : Option Char)

/-- A character in a string, as it is or behind a backslash. A control cannot stand there as it is. -/
def character : Reader Char :=
  (do char '\\'; escaped) <|> one fun c => c != '"' && c != '\\' && 0x20 ≤ c.toNat

def stringReader : Reader String := do
  char '"'
  let letters ← many character
  char '"'
  return String.ofList letters

/-- What is neither an array nor an object. Numbers are whole and not below zero. -/
def scalar : Reader Json :=
  .string <$> stringReader <|> (fun digits => .number (Decimal.ofDigits digits)) <$> run1 Char.isDigit <|>
    (fun _ => .bool true) <$> word ['t', 'r', 'u', 'e'] <|>
    (fun _ => .bool false) <$> word ['f', 'a', 'l', 's', 'e']

def listOf {α : Type} (opening closing : Char) (item : Reader α) : Reader (List α) := do
  char opening
  (do sign closing; return []) <|> (do
    let items ← separated item (sign ',')
    sign closing
    return items)

def memberOf (value : Reader Json) : Reader (String × Json) := do
  gap
  let name ← stringReader
  sign ':'
  return (name, ← value)

def valueWithin : (depth : Nat) → Reader Json
  | 0 => do
    gap
    scalar
  | depth + 1 => do
    gap
    scalar <|> .array <$> listOf '[' ']' (valueWithin depth) <|>
      .object <$> listOf '\x7b' '\x7d' (memberOf (valueWithin depth))

def depthLimit : Nat := 128

def read? (text : String) : Option Json := whole? (valueWithin depthLimit <* gap) text.toList

def NestsWithin : Nat → Json → Prop
  | _, .bool _ | _, .number _ | _, .string _ => True
  | 0, .array _ | 0, .object _ => False
  | depth + 1, .array items => ∀ item ∈ items, NestsWithin depth item
  | depth + 1, .object members => ∀ entry ∈ members, NestsWithin depth entry.2

section

variable {own rest : List Char}

theorem gap_reads (stops : Stops isGap rest) (all : ∀ c ∈ own, isGap c) : Reads gap own rest () :=
  .map (.run stops all)

theorem sign_reads {c : Char} (all : ∀ d ∈ own, isGap d) (another : isGap c = false) :
    Reads (sign c) (own ++ [c]) rest () :=
  (gap_reads (.cons another) all).bind (.char c)

theorem sign_refuses {c d : Char} (all : ∀ c ∈ own, isGap c) (another : isGap d = false)
    (differs : (d == c) = false) : sign c (own ++ d :: rest) = none := by
  have behind : Reads gap own (d :: rest) () := gap_reads (.cons another) all
  exact behind.bind_refuses (char_of_stops (.cons differs))

theorem control_reads (c : Char) (control : c.toNat < 0x20) :
    Reads character ['\\', 'u', '0', '0', Hexadecimal.digitChar (c.toNat / 16),
      Hexadecimal.digitChar (c.toNat % 16)] rest c := by
  have each : ∀ code < 0x20, Hexadecimal.charOf? ['0', '0', Hexadecimal.digitChar (code / 16),
      Hexadecimal.digitChar (code % 16)] = some (Char.ofNat code) := by decide +kernel
  have numeric : ∀ d ∈ ['0', '0', Hexadecimal.digitChar (c.toNat / 16),
      Hexadecimal.digitChar (c.toNat % 16)], Hexadecimal.isDigit d := by
    intro d member
    simp only [List.mem_cons, List.not_mem_nil, or_false] at member
    rcases member with rfl | rfl | rfl | rfl
    · decide
    · decide
    · exact Hexadecimal.isDigit_digitChar (by omega)
    · exact Hexadecimal.isDigit_digitChar (Nat.mod_lt _ (by decide))
  have code := each c.toNat control
  rw [Char.ofNat_toNat] at code
  have digits : Reads (field Hexadecimal.isDigit 4) _ rest _ := .field numeric rfl
  have point : Reads codePoint _ rest c := digits.bind (.lift code)
  have behind : Reads escaped ('u' :: _) rest c := point
  exact .orElse_left ((Reads.char '\\').bind behind)

/-- The written form of a character tells where it ends. -/
theorem character_reads (c : Char) : Reads character (escapeChar c) rest c := by
  fun_cases escapeChar c with
  | case1 | case2 | case3 | case4 | case5 | case6 | case7 =>
    subst c
    rfl
  | case8 _ _ _ _ _ _ _ control => exact control_reads c control
  | case9 quote backslash _ _ _ _ _ visible =>
    have apart : (c == '\\') = false := by simpa using backslash
    have refuses : (do char '\\'; escaped) ([c] ++ rest) = none :=
      bind_of_refuses (char_of_stops (.cons apart))
    exact .orElse_right refuses (.one (by simp [quote, backslash, Nat.le_of_not_lt visible]))

theorem escapeChar_ne_nil (c : Char) : escapeChar c ≠ [] := by
  fun_cases escapeChar c <;> simp

theorem toList_stringText (text : String) :
    (stringText text).toList = ['"'] ++ (text.toList.flatMap escapeChar ++ (['"'] ++ [])) := by
  simp [stringText]

theorem stringReader_reads (text : String) : Reads stringReader (stringText text).toList rest text := by
  have letters : Reads (many character) (text.toList.flatMap escapeChar) ('"' :: rest) text.toList :=
    .many (fun _ => True) (fun c _ _ _ => character_reads c) escapeChar_ne_nil
      (fun _ _ => trivial) trivial rfl
  have closes : Reads (do char '"'; return String.ofList text.toList) (['"'] ++ []) rest text := by
    rw [String.ofList_toList]
    exact (Reads.char '"').bind .pure
  rw [toList_stringText]
  exact (Reads.char '"').bind (letters.bind closes)

theorem scalar_reads_true : Reads scalar ['t', 'r', 'u', 'e'] rest (.bool true) := rfl

theorem scalar_reads_false : Reads scalar ['f', 'a', 'l', 's', 'e'] rest (.bool false) := rfl

theorem scalar_reads_string (text : String) :
    Reads scalar (stringText text).toList rest (.string text) :=
  .orElse_left (stringReader_reads text).map

theorem scalar_reads_number (value : Nat) (stops : Stops Char.isDigit rest) :
    Reads scalar (Decimal.natural value).toList rest (.number value) := by
  have numeric : ∀ c ∈ Decimal.digits value, c.isDigit := fun _ => Decimal.isDigit_of_mem_digits
  have digits : Reads (run1 Char.isDigit) _ rest _ := .run1 stops numeric (Decimal.digits_ne_nil value)
  have number := digits.map (f := fun digits => Json.number (Decimal.ofDigits digits))
  rw [Decimal.ofDigits_digits] at number
  have unquoted : Stops (· == '"') (Decimal.digits value ++ rest) := by
    have others : ∀ c ∈ Decimal.digits value, (c == '"') = false :=
      Decimal.positional.forall_digits (by decide) value
    cases written : Decimal.digits value with
    | nil => exact absurd written (Decimal.digits_ne_nil value)
    | cons c letters => exact .cons (others c (by simp [written]))
  rw [Decimal.natural, String.toList_ofList]
  exact .orElse_right (map_of_refuses (bind_of_refuses (char_of_stops unquoted))) (.orElse_left number)

end

/-- The layout in front of an entry that stands some levels deep. -/
def lead (depth : Nat) : List Char := '\n' :: List.replicate (2 * depth) ' '

theorem isGap_of_mem_lead {depth : Nat} {c : Char} (member : c ∈ lead depth) : isGap c := by
  rcases List.mem_cons.mp member with rfl | space
  · decide
  · rw [List.eq_of_mem_replicate space]
    decide

theorem itemTexts_eq_map (depth : Nat) (items : List Json) :
    itemTexts depth items = items.map (text depth) := by
  induction items with
  | nil => rw [itemTexts, List.map_nil]
  | cons item rest ih => rw [itemTexts, ih, List.map_cons]

def memberText (depth : Nat) (entry : String × Json) : String :=
  stringText entry.1 ++ ": " ++ text depth entry.2

theorem memberTexts_eq_map (depth : Nat) (members : List (String × Json)) :
    memberTexts depth members = members.map (memberText depth) := by
  induction members with
  | nil => rw [memberTexts, List.map_nil]
  | cons entry rest ih => rw [memberTexts, ih, List.map_cons, memberText]

theorem toList_intercalate_cons (depth : Nat) (entry : String) (entries : List String) :
    (",\n".intercalate ((entry :: entries).map (indentation depth ++ ·))).toList =
      (indentation depth ++ entry).toList ++
        entries.flatMap fun other => ',' :: (lead depth ++ other.toList) := by
  induction entries generalizing entry with
  | nil => simp
  | cons next others ih =>
    rw [List.map_cons, List.map_cons, String.intercalate_cons_cons, String.toList_append,
      String.toList_append, ← List.map_cons (f := (indentation depth ++ ·)), ih next, List.flatMap_cons]
    simp [lead, indentation]

theorem toList_block_cons (opening closing : Char) (depth : Nat) (entry : String)
    (entries : List String) :
    (block (String.singleton opening) (String.singleton closing) depth (entry :: entries)).toList =
      [opening] ++ ((lead (depth + 1) ++ entry.toList) ++
        ((entries.flatMap fun other => ',' :: (lead (depth + 1) ++ other.toList)) ++
          ((lead depth ++ [closing]) ++ []))) := by
  have inside := toList_intercalate_cons (depth + 1) entry entries
  simp only [block, List.isEmpty_cons, Bool.false_eq_true, if_false, String.toList_append, inside]
  simp [lead, indentation]

/-- An entry of a list opens neither with space nor with the bracket that closes the list. -/
def Opens (closing : Char) (text : List Char) : Prop :=
  ∃ c others, text = c :: others ∧ isGap c = false ∧ (c == closing) = false

theorem isGap_of_mem_nil {c : Char} (member : c ∈ []) : isGap c := nomatch member

theorem separated_reads {α : Type} {item : Reader α} {write : α → List Char} {first : α}
    {others : List α} {rest : List Char} (refuses : sign ',' rest = none)
    (ends : Stops Char.isDigit rest)
    (reads : ∀ value ∈ first :: others, ∀ rest, Stops Char.isDigit rest →
      Reads item (write value) rest value) :
    Reads (separated item (sign ',')) (write first ++ others.flatMap (',' :: write ·)) rest
      (first :: others) := by
  have later : Reads (many (sign ',' *> item)) (others.flatMap (',' :: write ·)) rest others := by
    refine .many (Stops Char.isDigit) (fun value member rest stops => ?_) (by simp)
      (fun _ _ => .cons (by decide)) ends (bind_of_refuses refuses)
    have own := reads value (List.mem_cons_of_mem _ member) rest stops
    have separates : Reads (sign ',') ([] ++ [',']) (write value ++ rest) () :=
      sign_reads (fun _ => isGap_of_mem_nil) (by decide)
    exact separates.seqRight own
  have stops : Stops Char.isDigit (others.flatMap (',' :: write ·) ++ rest) := by
    cases others with
    | nil => exact ends
    | cons next others => exact .cons (by decide)
  exact (reads first (List.mem_cons_self ..) _ stops).bind later.map

theorem listOf_reads {α : Type} {item : Reader α} {write : α → String} {opening closing : Char}
    {depth : Nat} {values : List α} {rest : List Char} (gapless : isGap closing = false)
    (comma : (closing == ',') = false)
    (opens : ∀ value ∈ values, Opens closing (write value).toList)
    (reads : ∀ value ∈ values, ∀ rest, Stops Char.isDigit rest →
      Reads item (lead (depth + 1) ++ (write value).toList) rest value) :
    Reads (listOf opening closing item)
      (block (String.singleton opening) (String.singleton closing) depth (values.map write)).toList
      rest values := by
  have gaps : ∀ depth, ∀ c ∈ lead depth, isGap c := fun _ _ => isGap_of_mem_lead
  cases values with
  | nil =>
    have closes : Reads (do sign closing; return ([] : List α)) ([] ++ [closing] ++ []) rest [] :=
      (sign_reads (fun _ => isGap_of_mem_nil) gapless).bind .pure
    have text : (block (String.singleton opening) (String.singleton closing) depth []).toList =
        [opening] ++ ([] ++ [closing] ++ []) := by simp [block]
    rw [List.map_nil, text]
    exact (Reads.char opening).bind (.orElse_left closes)
  | cons first others =>
    have ends : Reads (sign closing) (lead depth ++ [closing]) rest () := sign_reads (gaps depth) gapless
    have behind : sign ',' (lead depth ++ [closing] ++ [] ++ rest) = none := by
      simpa using sign_refuses (gaps depth) gapless comma
    have entries := separated_reads behind (.cons (by decide)) reads
    have closes : Reads (do sign closing; return first :: others) (lead depth ++ [closing] ++ []) rest
      (first :: others) := ends.bind .pure
    have whole : Reads (do let values ← separated item (sign ','); sign closing; return values) _ rest
      (first :: others) := entries.bind closes
    obtain ⟨c, letters, written, visible, apart⟩ := opens first (List.mem_cons_self ..)
    have early : ∀ rest, sign closing (lead (depth + 1) ++ (c :: letters ++ rest)) = none :=
      fun _ => sign_refuses (gaps (depth + 1)) visible apart
    rw [List.map_cons, toList_block_cons]
    refine (Reads.char opening).bind (.orElse_right (bind_of_refuses ?_) ?_)
    · simpa [written] using early _
    · simpa [List.flatMap_map] using whole

theorem toList_memberText (depth : Nat) (name : String) (document : Json) :
    (memberText depth (name, document)).toList =
      (stringText name).toList ++ ([':'] ++ ([' '] ++ (text depth document).toList)) := by
  simp [memberText]

theorem memberOf_reads {value : Reader Json} {depth : Nat} {name : String} {document : Json}
    {own rest : List Char} (all : ∀ c ∈ own, isGap c)
    (reads : Reads value ([' '] ++ (text depth document).toList) rest document) :
    Reads (memberOf value) (own ++ (memberText depth (name, document)).toList) rest (name, document) := by
  have named : Reads (do return (name, ← value)) ([' '] ++ (text depth document).toList) rest
    (name, document) := reads.map
  have colon : Reads (sign ':') ([] ++ [':']) ([' '] ++ (text depth document).toList ++ rest) () :=
    sign_reads (fun _ => isGap_of_mem_nil) (by decide)
  have valued : Reads (do sign ':'; return (name, ← value)) _ rest (name, document) := colon.bind named
  have inside : Reads (do let name ← stringReader; sign ':'; return (name, ← value)) _ rest
    (name, document) := (stringReader_reads name).bind valued
  rw [toList_memberText]
  refine (gap_reads ?_ all).bind inside
  rw [toList_stringText]
  exact .cons (by decide)

theorem Opens.stops {closing : Char} {text : List Char} (opens : Opens closing text) (rest : List Char) :
    Stops isGap (text ++ rest) := by
  obtain ⟨c, others, rfl, visible, _⟩ := opens
  exact .cons visible

theorem opens_digits {closing : Char} (n : Nat)
    (apart : ∀ d < 10, (Decimal.digitChar d == closing) = false) : Opens closing (Decimal.digits n) := by
  have visible : ∀ c ∈ Decimal.digits n, isGap c = false :=
    Decimal.positional.forall_digits (by decide) n
  have others : ∀ c ∈ Decimal.digits n, (c == closing) = false :=
    Decimal.positional.forall_digits apart n
  cases written : Decimal.digits n with
  | nil => exact absurd written (Decimal.digits_ne_nil n)
  | cons c letters => exact ⟨c, letters, rfl, visible c (by simp [written]), others c (by simp [written])⟩

theorem toList_block (opening : Char) (closing : String) (depth : Nat) (entries : List String) :
    (block (String.singleton opening) closing depth entries).toList =
      opening :: (block "" closing depth entries).toList := by
  rw [block, block]
  split <;> simp

theorem text_array (depth : Nat) (items : List Json) :
    text depth (.array items) =
      block (String.singleton '[') (String.singleton ']') depth (items.map (text (depth + 1))) := by
  rw [text, itemTexts_eq_map]
  rfl

theorem text_object (depth : Nat) (members : List (String × Json)) :
    text depth (.object members) =
      block (String.singleton '\x7b') (String.singleton '\x7d') depth
        (members.map (memberText (depth + 1))) := by
  rw [text, memberTexts_eq_map]
  rfl

theorem opens_text (depth : Nat) (document : Json) : Opens ']' (text depth document).toList := by
  cases document with
  | bool value =>
    cases value with
    | false => exact ⟨'f', ['a', 'l', 's', 'e'], by rw [text]; rfl, by decide, by decide⟩
    | true => exact ⟨'t', ['r', 'u', 'e'], by rw [text]; rfl, by decide, by decide⟩
  | number value =>
    rw [text, Decimal.natural, String.toList_ofList]
    exact opens_digits value (by decide)
  | string value =>
    rw [text, toList_stringText]
    exact ⟨'"', _, rfl, by decide, by decide⟩
  | array items =>
    rw [text_array, toList_block]
    exact ⟨'[', _, rfl, by decide, by decide⟩
  | object members =>
    rw [text_object, toList_block]
    exact ⟨'\x7b', _, rfl, by decide, by decide⟩

theorem opens_memberText {closing : Char} (another : ('"' == closing) = false) (depth : Nat)
    (entry : String × Json) : Opens closing (memberText depth entry).toList := by
  rw [toList_memberText, toList_stringText]
  exact ⟨'"', _, rfl, by decide, another⟩

theorem scalar_reads {document : Json} (flat : NestsWithin 0 document) (depth : Nat) {rest : List Char}
    (stops : Stops Char.isDigit rest) : Reads scalar (text depth document).toList rest document := by
  cases document with
  | bool value =>
    cases value with
    | false =>
      rw [text]
      exact scalar_reads_false
    | true =>
      rw [text]
      exact scalar_reads_true
  | number value =>
    rw [text]
    exact scalar_reads_number value stops
  | string value =>
    rw [text]
    exact scalar_reads_string value
  | array items => exact flat.elim
  | object members => exact flat.elim

section

variable {limit depth : Nat} {own rest : List Char}

theorem valueWithin_of_scalar {document : Json} (flat : NestsWithin 0 document)
    (all : ∀ c ∈ own, isGap c) (stops : Stops Char.isDigit rest) :
    Reads (valueWithin limit) (own ++ (text depth document).toList) rest document := by
  have opens := (opens_text depth document).stops rest
  have reads := scalar_reads flat depth stops
  cases limit with
  | zero => exact (gap_reads opens all).bind reads
  | succ limit => exact (gap_reads opens all).bind (.orElse_left reads)

theorem valueWithin_of_items {items : List Json} (all : ∀ c ∈ own, isGap c)
    (reads : ∀ item ∈ items, ∀ rest, Stops Char.isDigit rest →
      Reads (valueWithin limit) (lead (depth + 1) ++ (text (depth + 1) item).toList) rest item) :
    Reads (valueWithin (limit + 1)) (own ++ (text depth (.array items)).toList) rest (.array items) := by
  have opens := (opens_text depth (.array items)).stops rest
  have listed : Reads (listOf '[' ']' (valueWithin limit)) (text depth (.array items)).toList rest
      items := by
    rw [text_array]
    exact listOf_reads (by decide) (by decide) (fun item _ => opens_text (depth + 1) item) reads
  have bracket : scalar ((text depth (.array items)).toList ++ rest) = none := by
    rw [text_array, toList_block]
    rfl
  exact (gap_reads opens all).bind (.orElse_right bracket (.orElse_left listed.map))

theorem valueWithin_of_members {members : List (String × Json)} (all : ∀ c ∈ own, isGap c)
    (reads : ∀ entry ∈ members, ∀ rest, Stops Char.isDigit rest →
      Reads (valueWithin limit) ([' '] ++ (text (depth + 1) entry.2).toList) rest entry.2) :
    Reads (valueWithin (limit + 1)) (own ++ (text depth (.object members)).toList) rest
      (.object members) := by
  have opens := (opens_text depth (.object members)).stops rest
  have listed : Reads (listOf '\x7b' '\x7d' (memberOf (valueWithin limit)))
      (text depth (.object members)).toList rest members := by
    rw [text_object]
    refine listOf_reads (by decide) (by decide)
      (fun entry _ => opens_memberText (by decide) (depth + 1) entry) fun entry member rest stops => ?_
    exact memberOf_reads (fun _ => isGap_of_mem_lead) (reads entry member rest stops)
  have bracket : scalar ((text depth (.object members)).toList ++ rest) = none := by
    rw [text_object, toList_block]
    rfl
  have another : (array <$> listOf '[' ']' (valueWithin limit))
      ((text depth (.object members)).toList ++ rest) = none := by
    rw [text_object, toList_block]
    exact map_of_refuses (bind_of_refuses rfl)
  exact (gap_reads opens all).bind (.orElse_right bracket (.orElse_right another listed.map))

theorem valueWithin_reads {document : Json} (nests : NestsWithin limit document) (depth : Nat)
    (all : ∀ c ∈ own, isGap c) (stops : Stops Char.isDigit rest) :
    Reads (valueWithin limit) (own ++ (text depth document).toList) rest document := by
  induction limit generalizing document depth own rest with
  | zero => exact valueWithin_of_scalar nests all stops
  | succ limit ih =>
    cases document with
    | bool | number | string => exact valueWithin_of_scalar trivial all stops
    | array items =>
      refine valueWithin_of_items all fun item member rest stops => ?_
      exact ih (nests item member) (depth + 1) (fun _ => isGap_of_mem_lead) stops
    | object members =>
      refine valueWithin_of_members all fun entry member rest stops => ?_
      exact ih (nests entry member) (depth + 1) (by simp [isGap]) stops

end

theorem read?_pretty {document : Json} (nests : NestsWithin depthLimit document) :
    read? document.pretty = some document := by
  have own : Reads (valueWithin depthLimit) ([] ++ (text 0 document).toList) ([] ++ []) document :=
    valueWithin_reads nests 0 (fun _ => isGap_of_mem_nil) .nil
  have ends : Reads gap [] [] () := gap_reads .nil fun _ => isGap_of_mem_nil
  have whole := own.seqLeft ends
  rw [List.append_nil, List.nil_append] at whole
  exact whole.whole?

example : read? "[1, true,\n \"a\\u0041\"]" = some (.array [.number 1, .bool true, .string "aA"]) := by
  cbv

end Json

end DeliveryCheck
