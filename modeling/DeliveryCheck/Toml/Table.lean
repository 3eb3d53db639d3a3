import DeliveryCheck.Toml.Value
/-!
Building tables. A table can be opened once by a header, also after tables inside it; a dotted key
only goes through tables that no header has opened, and adds only to tables that dotted keys have made.
-/

namespace DeliveryCheck.Toml.Entries

def set (entries : Entries) (key : String) (value : Value) : Entries :=
  entries.map fun entry => if entry.1 = key then (key, value) else entry

def add (entries : Entries) (key : String) (value : Value) : Entries := entries ++ [(key, value)]

def addNew (entries : Entries) (key : String) (value : Value) : Option Entries :=
  if (entries.lookup key).isSome then none else some (entries.add key value)

def changeLast (change : Entries → Option Entries) (elements : List Entries) :
    Option (List Entries) := do
  let last ← elements.getLast?
  return elements.dropLast ++ [← change last]

/-- Whether a dotted key may go through a table, `more` parts being left after the next one. -/
def admits (more : Bool) : Origin → Bool
  | .dotted => true
  | .implied => more
  | .header | .inline => false

def assign (value : Value) : (first : String) → (path : List String) → Entries → Option Entries
  | key, [], entries => entries.addNew key value
  | key, next :: path, entries =>
    match entries.lookup key with
    | none => do
      return entries.add key (.table .dotted (← assign value next path []))
    | some (.table origin inner) =>
      if admits (!path.isEmpty) origin then do
        return entries.set key (.table origin (← assign value next path inner))
      else none
    | some (.tables elements) =>
      if path.isEmpty then none
      else do
        return entries.set key (.tables (← changeLast (assign value next path) elements))
    | some _ => none

/-- Changes the table that a header's path leads to; a part that leads nowhere yet gets a table. -/
def changeAt (change : Entries → Option Entries) : List String → Entries → Option Entries
  | [], entries => change entries
  | key :: path, entries =>
    match entries.lookup key with
    | none => do
      return entries.add key (.table .implied (← changeAt change path []))
    | some (.table origin inner) =>
      if origin = .inline then none
      else do
        return entries.set key (.table origin (← changeAt change path inner))
    | some (.tables elements) => do
      return entries.set key (.tables (← changeLast (changeAt change path) elements))
    | some _ => none

def openTable (key : String) (entries : Entries) : Option Entries :=
  match entries.lookup key with
  | none => some (entries.add key (.table .header []))
  | some (.table .implied inner) => some (entries.set key (.table .header inner))
  | some _ => none

def openElement (key : String) (entries : Entries) : Option Entries :=
  match entries.lookup key with
  | none => some (entries.add key (.tables [[]]))
  | some (.tables elements) => some (entries.set key (.tables (elements ++ [[]])))
  | some _ => none

end DeliveryCheck.Toml.Entries
