namespace DeliveryCheck.Path

def pieces : List Char → List (List Char)
  | [] => [[]]
  | c :: rest =>
    if c = '/' then [] :: pieces rest
    else match pieces rest with
      | [] => [[c]]
      | first :: others => (c :: first) :: others

def isAbsolute (path : String) : Bool := path.toList.head? == some '/'

/-- The names on the way, two dots among them. -/
def names (path : String) : List String :=
  (pieces path.toList).filterMap fun piece =>
    if piece.isEmpty || piece == ['.'] then none else some (String.ofList piece)

def ofNames (absolute : Bool) (names : List String) : String :=
  (if absolute then "/" else "") ++ "/".intercalate names

def parent? (path : String) : Option String :=
  if (names path).isEmpty then none else some (ofNames (isAbsolute path) (names path).dropLast)

def join (directory path : String) : String :=
  if directory.isEmpty || directory.toList.getLast? == some '/' then directory ++ path
  else directory ++ "/" ++ path

end DeliveryCheck.Path
