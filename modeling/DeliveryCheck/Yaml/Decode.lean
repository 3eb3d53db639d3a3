import DeliveryCheck.Text.Hexadecimal
import DeliveryCheck.Yaml.Node
/-!
Reading nodes as what a program wants them to be. Aliases are followed. Every scalar is a text, however
it is written; a number has to be plain; what may be left out is left out by a plain null.
-/

namespace DeliveryCheck.Yaml

def nullTag : String := "tag:yaml.org,2002:null"

def integerTag : String := "tag:yaml.org,2002:int"

def isNullWord (text : String) : Bool := ["~", "null", "Null", "NULL"].contains text

def numberIn? (base : Nat) (digits : List Char) : Option Nat :=
  if !digits.isEmpty &&
      digits.all fun c => Hexadecimal.isDigit c && Hexadecimal.digitValue c < base then
    some (Hexadecimal.ofDigits base digits)
  else none

/-- A number, perhaps after a plus sign, in base 16, 8, 2, or 10 and then without leading zeros. -/
def natural? (text : List Char) : Option Nat :=
  let unsigned := if text.head? == some '+' then text.tail else text
  match unsigned with
  | '0' :: 'x' :: digits => numberIn? 16 digits
  | '0' :: 'o' :: digits => numberIn? 8 digits
  | '0' :: 'b' :: digits => numberIn? 2 digits
  | ['0'] => some 0
  | '0' :: _ => none
  | digits => numberIn? 10 digits

namespace Node

variable (document : Node)

def text? (node : Node) : Option String :=
  match target document node with
  | scalar _ _ text => some text
  | _ => none

def word64? (node : Node) : Option UInt64 := do
  match target document node with
  | scalar properties style text =>
    guard (style = .plain ∨ (style = .literal ∧ properties.tag = some integerTag))
    let number ← natural? text.toList
    if number < UInt64.size then some number.toUInt64 else none
  | _ => none

/-- A node that may be null, which a tag for null makes it have to be. -/
def optional? {α : Type} (decode : Node → Option α) (node : Node) : Option (Option α) :=
  match target document node with
  | scalar properties .plain text =>
    if properties.tag = some nullTag then
      if isNullWord text then some none else none
    else if properties.tag = none ∧ (text.isEmpty ∨ isNullWord text) then some none
    else (decode node).map some
  | _ => (decode node).map some

/-- One of several words, as the text of a scalar or as its tag before nothing or null. -/
def choice? {α : Type} (ofText : String → Option α) (node : Node) : Option α :=
  match target document node with
  | scalar properties style text =>
    match properties.tag.map String.toList with
    | some ('!' :: name) => do
      guard (style = .plain ∧ (text.isEmpty ∨ isNullWord text))
      ofText (String.ofList name)
    | _ => ofText text
  | _ => none

/-- Whether a node is left out where a collection should be, which makes the collection empty. -/
def isLeftOut : Node → Bool
  | scalar _ .plain "" => true
  | _ => false

def items? (node : Node) : Option (List Node) :=
  match target document node with
  | sequence _ items => some items
  | other => if other.isLeftOut then some [] else none

def entries? (node : Node) : Option (List (String × Node)) :=
  match target document node with
  | mapping _ pairs => pairs.mapM fun (key, value) => (text? document key).map (·, value)
  | other => if other.isLeftOut then some [] else none

end Node

end DeliveryCheck.Yaml
