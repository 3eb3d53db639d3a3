import DeliveryCheck.Yaml.Token

namespace DeliveryCheck.Yaml

structure Properties where
  anchor : Option Nat := none
  tag : Option String := none
deriving DecidableEq

inductive Node where
  | scalar (properties : Properties) (style : Style) (text : String)
  | sequence (properties : Properties) (items : List Node)
  | mapping (properties : Properties) (pairs : List (Node × Node))
  | alias (target : Nat)

namespace Node

def empty : Node := .scalar {} .plain ""

def properties : Node → Properties
  | scalar properties .. => properties
  | sequence properties .. => properties
  | mapping properties .. => properties
  | .alias _ => {}

mutual

def anchored : Node → List (Nat × Node)
  | .scalar properties style text =>
    properties.anchor.toList.map (·, .scalar properties style text)
  | .sequence properties items =>
    properties.anchor.toList.map (·, .sequence properties items) ++ anchoredItems items
  | .mapping properties pairs =>
    properties.anchor.toList.map (·, .mapping properties pairs) ++ anchoredPairs pairs
  | .alias _ => []

def anchoredItems : List Node → List (Nat × Node)
  | [] => []
  | item :: rest => anchored item ++ anchoredItems rest

def anchoredPairs : List (Node × Node) → List (Nat × Node)
  | [] => []
  | (key, value) :: rest => anchored key ++ anchored value ++ anchoredPairs rest

end

def target (document : Node) : Node → Node
  | .alias number => (document.anchored.reverse.lookup number).getD empty
  | node => node

end Node

end DeliveryCheck.Yaml
