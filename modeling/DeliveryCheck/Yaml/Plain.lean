import DeliveryCheck.Yaml.Fold

namespace DeliveryCheck.Yaml

/-- Where a plain scalar stands: the column that its further lines need, and whether it is inside a
flow collection, where the column does not matter. -/
structure PlainContext where
  column : Int
  inFlow : Bool

namespace PlainContext

/-- In a flow collection a colon may not stand before its punctuation or a question mark. -/
def isBadColon (context : PlainContext) : List Char → Bool
  | ':' :: next :: _ => context.inFlow && (isFlowIndicator next || next == '?')
  | _ => false

def continues (context : PlainContext) : List Char → Bool
  | [] => false
  | c :: rest =>
    !isGap c && !(c == ':' && rest.head?.all isGap) && !context.isBadColon (c :: rest) &&
      !(context.inFlow && isFlowIndicator c)

def front (context : PlainContext) : List Char → List Char
  | [] => []
  | c :: rest => if context.continues (c :: rest) then c :: front context rest else []

def word (context : PlainContext) : Scan (List Char) := do
  let found := context.front (← get).rest
  guard (!found.isEmpty)
  Scan.skip found.length
  return found

def nextWord (context : PlainContext) : Scan (List Char) := do
  let (between, _) ← gap context.column
  let here ← get
  guard (context.inFlow ∨ context.column ≤ here.column)
  guard (!here.isAtDocumentMarker)
  guard (here.peek? != some '#')
  return between ++ (← context.word)

def text (context : PlainContext) : Scan (String × Bool) := do
  let first ← context.word
  let others ← Scan.many context.nextWord
  let (_, broken) ← gap context.column
  guard (!context.isBadColon (← get).rest)
  return (String.ofList (first ++ others.flatten), broken)

end PlainContext

end DeliveryCheck.Yaml
