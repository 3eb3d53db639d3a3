import DeliveryCheck.Yaml.Cursor

namespace DeliveryCheck.Yaml

def folded (first : List Char) (others : List Char) : List Char :=
  if first == ['\n'] then (if others.isEmpty then [' '] else others) else first ++ others

/-- A blank at the start of a line; a tab is refused before the column that the text needs. -/
def leadingBlank (tabsFrom : Int) : Scan (List Char) := do
  let here ← get
  let c ← Scan.one isBlank
  guard (c == ' ' || tabsFrom ≤ here.column)
  return []

def emptyLines (tabsFrom : Int) : Scan (List Char) := do
  return (← Scan.many (leadingBlank tabsFrom <|> Scan.lineBreak)).flatten

def gap (tabsFrom : Int) : Scan (List Char × Bool) := do
  let blanks ← Scan.run isBlank
  match ← optional? Scan.lineBreak with
  | none => return (blanks, false)
  | some first =>
    let others ← emptyLines tabsFrom
    guard (!(← get).peek?.any isBlank)
    return (folded first others, true)

end DeliveryCheck.Yaml
