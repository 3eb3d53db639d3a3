/-!
The values of a TOML document. Floating-point numbers and dates are told apart from the others and
otherwise not looked at. A table remembers how it came about, which decides what may still be added
to it.
-/

namespace DeliveryCheck.Toml

inductive Origin where
  /-- By a header of its own. -/
  | header
  /-- By the header of a table inside it. -/
  | implied
  | dotted
  /-- In braces, after which nothing is added to it. -/
  | inline
deriving DecidableEq

inductive Value where
  | string (text : String)
  | integer (value : Int)
  | float
  | bool (value : Bool)
  | moment
  | array (items : List Value)
  | table (origin : Origin) (entries : List (String × Value))
  /-- An array whose elements have headers of their own, each a list of entries. -/
  | tables (elements : List (List (String × Value)))

abbrev Entries := List (String × Value)

end DeliveryCheck.Toml
