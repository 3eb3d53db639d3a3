import DeliveryCheck.Toml.Value

namespace DeliveryCheck.Toml

inductive Section where
  | named (entries : Entries)
  | listed (items : List Value)

namespace Value

def text? : Value → Option String
  | string text => some text
  | _ => none

def bool? : Value → Option Bool
  | bool value => some value
  | _ => none

def natural? : Value → Option Nat
  | integer value => if 0 ≤ value then some value.toNat else none
  | _ => none

def word32? (value : Value) : Option UInt32 := do
  let count ← value.natural?
  if count < UInt32.size then some count.toUInt32 else none

def word64? (value : Value) : Option UInt64 := do
  return (← value.natural?).toUInt64

/-- A date is a section without any setting that is known. -/
def section? : Value → Option Section
  | table _ entries => some (.named entries)
  | array items => some (.listed items)
  | tables elements => some (.listed (elements.map (table .header)))
  | moment => some (.named [])
  | _ => none

end Value

namespace Section

def find? (part : Section) (position : Nat) (name : String) : Option Value :=
  match part with
  | named entries => entries.lookup name
  | listed items => items[position]?

def get {α : Type} (part : Section) (position : Nat) (name : String) (decode : Value → Option α)
    (absent : α) : Option α :=
  match part.find? position name with
  | none => some absent
  | some value => decode value

end Section

end DeliveryCheck.Toml
