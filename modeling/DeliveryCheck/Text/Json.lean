import DeliveryCheck.Text.Hexadecimal

namespace DeliveryCheck

inductive Json where
  | bool (value : Bool)
  | number (value : Nat)
  | string (value : String)
  | array (items : List Json)
  | object (members : List (String × Json))

namespace Json

def escapeChar (c : Char) : List Char :=
  if c = '"' then ['\\', '"']
  else if c = '\\' then ['\\', '\\']
  else if c = '\x08' then ['\\', 'b']
  else if c = '\x0c' then ['\\', 'f']
  else if c = '\n' then ['\\', 'n']
  else if c = '\r' then ['\\', 'r']
  else if c = '\t' then ['\\', 't']
  else if c.toNat < 0x20 then
    ['\\', 'u', '0', '0', Hexadecimal.digitChar (c.toNat / 16), Hexadecimal.digitChar (c.toNat % 16)]
  else [c]

def stringText (text : String) : String :=
  "\"" ++ String.ofList (text.toList.flatMap escapeChar) ++ "\""

def indentation (depth : Nat) : String := String.ofList (List.replicate (2 * depth) ' ')

def block (opening closing : String) (depth : Nat) (entries : List String) : String :=
  if entries.isEmpty then opening ++ closing
  else
    opening ++ "\n" ++ ",\n".intercalate (entries.map (indentation (depth + 1) ++ ·)) ++ "\n" ++
      indentation depth ++ closing

mutual

def text (depth : Nat) : Json → String
  | .bool true => "true"
  | .bool false => "false"
  | .number value => Decimal.natural value
  | .string value => stringText value
  | .array items => block "[" "]" depth (itemTexts (depth + 1) items)
  | .object members => block "\x7b" "\x7d" depth (memberTexts (depth + 1) members)

def itemTexts (depth : Nat) : List Json → List String
  | [] => []
  | item :: rest => text depth item :: itemTexts depth rest

def memberTexts (depth : Nat) : List (String × Json) → List String
  | [] => []
  | (name, value) :: rest => (stringText name ++ ": " ++ text depth value) :: memberTexts depth rest

end

def pretty (document : Json) : String := text 0 document

end Json

end DeliveryCheck
