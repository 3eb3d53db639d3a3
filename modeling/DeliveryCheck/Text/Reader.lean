import DeliveryCheck.Text.Decimal

namespace DeliveryCheck

def collect {σ α : Type} (size : σ → Nat) (step : StateT σ Option α) (s : σ) : List α × σ :=
  match step s with
  | none => ([], s)
  | some (found, later) =>
    if size later < size s then
      let (others, last) := collect size step later
      (found :: others, last)
    else ([], s)
termination_by size s

def collectAll {σ α : Type} (size : σ → Nat) (step : StateT σ Option α) : StateT σ Option (List α) :=
  fun s => some (collect size step s)

def optional? {σ α : Type} (step : StateT σ Option α) : StateT σ Option (Option α) := fun s =>
  match step s with
  | some (found, later) => some (some found, later)
  | none => some (none, s)

abbrev Reader := StateT (List Char) Option

namespace Reader

variable {α : Type}

def refuse : Reader α := fun _ => none

def one (allowed : Char → Bool) : Reader Char := fun
  | c :: rest => if allowed c then some (c, rest) else none
  | [] => none

def char (c : Char) : Reader Unit := do
  let _ ← one (· == c)

def word : List Char → Reader Unit
  | [] => pure ()
  | c :: rest => do
    char c
    word rest

def run (allowed : Char → Bool) : Reader (List Char) := fun cs =>
  some (cs.takeWhile allowed, cs.dropWhile allowed)

def run1 (allowed : Char → Bool) : Reader (List Char) := do
  let first ← one allowed
  return first :: (← run allowed)

def field (allowed : Char → Bool) : (count : Nat) → Reader (List Char)
  | 0 => pure []
  | count + 1 => do
    let first ← one allowed
    return first :: (← field allowed count)

def number (count : Nat) : Reader Nat := do
  return Decimal.ofDigits (← field Char.isDigit count)

def option (item : Reader α) : Reader (Option α) := optional? item

def many (item : Reader α) : Reader (List α) := collectAll List.length item

def separated (item : Reader α) (separator : Reader Unit) : Reader (List α) := do
  let first ← item
  return first :: (← many (separator *> item))

def finish : Reader Unit := fun
  | [] => some ((), [])
  | _ => none

def whole? (item : Reader α) (text : List Char) : Option α :=
  ((item <* finish) text).map (·.1)

end Reader

end DeliveryCheck
