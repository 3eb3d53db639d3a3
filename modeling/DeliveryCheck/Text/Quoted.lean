import DeliveryCheck.Text.CharacterRange
import DeliveryCheck.Text.Hexadecimal
/-!
Text in double quotes. A quote, a backslash and the usual controls are written with a backslash;
characters that are invisible or join the one before them are written as their code point in braces.
-/

namespace DeliveryCheck.Quoted

def codePoint (c : Char) : List Char := '\\' :: 'u' :: '\x7b' :: (Hexadecimal.digits c.toNat ++ ['\x7d'])

def needsCodePoint (c : Char) : Bool :=
  CharacterRange.covers CharacterRange.graphemeExtenders c ||
    CharacterRange.covers CharacterRange.invisible c

def encodeChar (c : Char) : List Char :=
  if c = '\x00' then ['\\', '0']
  else if c = '\t' then ['\\', 't']
  else if c = '\r' then ['\\', 'r']
  else if c = '\n' then ['\\', 'n']
  else if c = '"' then ['\\', '"']
  else if c = '\\' then ['\\', '\\']
  else if needsCodePoint c then codePoint c
  else [c]

def encode (text : List Char) : List Char := '"' :: (text.flatMap encodeChar ++ ['"'])

end DeliveryCheck.Quoted

namespace DeliveryCheck

def quoted (text : String) : String := String.ofList (Quoted.encode text.toList)

def quotedList (texts : List String) : String :=
  "[" ++ ", ".intercalate (texts.map quoted) ++ "]"

end DeliveryCheck
