import DeliveryCheck.Files.Path

namespace DeliveryCheck.Files

inductive Fault where
  | notFound
  | alreadyExists
  | isDirectory
  | notDirectory
  | nameTooLong
  | zeroCharacter
  /-- The content is not UTF-8. -/
  | notText
  | other (reason : String)
deriving DecidableEq

def Fault.message : Fault → String
  | .notFound => "No such file or directory (os error 2)"
  | .alreadyExists => "File exists (os error 17)"
  | .isDirectory => "Is a directory (os error 21)"
  | .notDirectory => "Not a directory (os error 20)"
  | .nameTooLong => "File name too long (os error 36)"
  | .zeroCharacter => "file name contained an unexpected NUL byte"
  | .notText => "stream did not contain valid UTF-8"
  | .other reason => reason

inductive Entry where
  | file (content : ByteArray)
  | directory

/-- The names on the way from the root. -/
abbrev Place := List String

structure Tree where
  entries : List (Place × Entry) := []
  /-- Where relative paths start. -/
  current : Place := []

namespace Tree

def entry? (tree : Tree) (place : Place) : Option Entry :=
  if place.isEmpty then some .directory else tree.entries.lookup place

def isDirectoryAt (tree : Tree) (place : Place) : Bool :=
  match tree.entry? place with
  | some .directory => true
  | _ => false

def add (tree : Tree) (place : Place) (entry : Entry) : Tree :=
  { tree with entries := (place, entry) :: tree.entries }

/-- The longest name, in bytes. -/
def longestName : Nat := 255

/-- The longest path, in bytes. -/
def longestPath : Nat := 4095

/-- The place that a name in a directory stands for, whether there is anything or not. -/
def step (tree : Tree) (place : Place) (name : String) : Except Fault Place :=
  if !tree.isDirectoryAt place then .error .notDirectory
  else if name = "" ∨ name = "." then .ok place
  else if name = ".." then .ok place.dropLast
  else if longestName < name.utf8ByteSize then .error .nameTooLong
  else .ok (place ++ [name])

def follow (tree : Tree) : Place → List String → Except Fault Place
  | place, [] => .ok place
  | place, name :: rest =>
    match tree.step place name with
    | .error fault => .error fault
    | .ok next => if (tree.entry? next).isSome then tree.follow next rest else .error .notFound

def route (tree : Tree) (path : String) : Except Fault (Place × List String) :=
  if path.toList.contains '\x00' then .error .zeroCharacter
  else if path.isEmpty then .error .notFound
  else if longestPath < path.utf8ByteSize then .error .nameTooLong
  else
    .ok (if Path.isAbsolute path then [] else tree.current,
      (Path.pieces path.toList).map String.ofList)

def find (tree : Tree) (path : String) : Except Fault Place := do
  let (start, names) ← tree.route path
  tree.follow start names

def contains (tree : Tree) (path : String) : Bool := (tree.find path).toOption.isSome

def isDirectory (tree : Tree) (path : String) : Bool :=
  (tree.find path).toOption.any tree.isDirectoryAt

def read (tree : Tree) (path : String) : Except Fault String := do
  match tree.entry? (← tree.find path) with
  | some (.file content) =>
    match String.fromUTF8? content with
    | some text => return text
    | none => .error .notText
  | _ => .error .isDirectory

/-- The directory in which a path's last name is looked for, and that name; slashes at the end do not
count. -/
def approach (tree : Tree) (path : String) : Except Fault (Place × String) := do
  let (start, names) ← tree.route path
  let names := (names.reverse.dropWhile String.isEmpty).reverse
  let directory ← tree.follow start names.dropLast
  if tree.isDirectoryAt directory then return (directory, names.getLastD "")
  else .error .notDirectory

def makeDirectory (tree : Tree) (path : String) : Except Fault Tree := do
  let (directory, name) ← tree.approach path
  let place ← tree.step directory name
  if (tree.entry? place).isSome then .error .alreadyExists else return tree.add place .directory

/-- What becomes of a failed attempt to make a directory: nothing is lost if it is there. -/
def settle (tree : Tree) (path : String) (fault : Fault) : Except Fault Unit × Tree :=
  if tree.isDirectory path then (.ok (), tree) else (.error fault, tree)

/-- Makes a directory and those that lead to it, the last name first. -/
def makeChain (absolute : Bool) : List String → Tree → Except Fault Unit × Tree
  | [], tree => (.ok (), tree)
  | name :: outer, tree =>
    let path := Path.ofNames absolute (name :: outer).reverse
    match tree.makeDirectory path with
    | .ok later => (.ok (), later)
    | .error .notFound =>
      match makeChain absolute outer tree with
      | (.error fault, later) => (.error fault, later)
      | (.ok (), later) =>
        match later.makeDirectory path with
        | .ok last => (.ok (), last)
        | .error fault => later.settle path fault
    | .error fault => tree.settle path fault

def makeDirectories (tree : Tree) (path : String) : Except Fault Unit × Tree :=
  makeChain (Path.isAbsolute path) (Path.names path).reverse tree

/-- Opens a file to append to it; one that is not there is made. A slash at the end asks for a
directory, which cannot be appended to. -/
def openToAppend (tree : Tree) (path : String) : Except Fault Tree := do
  let (directory, name) ← tree.approach path
  if path.toList.getLast? == some '/' then .error .isDirectory
  let place ← tree.step directory name
  match tree.entry? place with
  | some .directory => .error .isDirectory
  | some (.file _) => return tree
  | none => return tree.add place (.file .empty)

/-- Everything below a place, by its path from there, directories with a slash at the end. -/
def listing (tree : Tree) (root : Place) : List String :=
  let shown := tree.entries.filterMap fun (place, entry) =>
    if root.isPrefixOf place && root.length < place.length then
      let path := "/".intercalate (place.drop root.length)
      match entry with
      | .directory => some (path ++ "/")
      | .file _ => some path
    else none
  shown.mergeSort fun a b => !(b < a)

end Tree

end DeliveryCheck.Files
