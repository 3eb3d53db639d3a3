/-!
Coloured terminal text. A style opens with its codes and closes with a reset; a reset inside the text
is followed by the opening again, so that the style reaches to the end.
-/

namespace DeliveryCheck

structure Style where
  codes : String
deriving DecidableEq

namespace Style

def header : Style := ⟨"1;35"⟩
def info : Style := ⟨"34"⟩
def pass : Style := ⟨"32"⟩
def fail : Style := ⟨"31"⟩
def dimmed : Style := ⟨"2"⟩
def boldPass : Style := ⟨"1;32"⟩
def boldFail : Style := ⟨"1;31"⟩

def opening (style : Style) : List Char := '\x1b' :: '[' :: (style.codes.toList ++ ['m'])

def reset : List Char := ['\x1b', '[', '0', 'm']

def resume (style : Style) : List Char → List Char
  | '\x1b' :: '[' :: '0' :: 'm' :: rest => reset ++ style.opening ++ style.resume rest
  | c :: rest => c :: style.resume rest
  | [] => []

def paint (style : Style) (colours : Bool) (text : String) : String :=
  if colours then String.ofList (style.opening ++ style.resume text.toList ++ reset) else text

end Style

end DeliveryCheck
