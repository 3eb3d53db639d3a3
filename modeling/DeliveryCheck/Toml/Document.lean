import DeliveryCheck.Toml.Inline

namespace DeliveryCheck.Toml

inductive Line where
  | blank
  | table (path : List String)
  | element (path : List String)
  | pair (path : List String) (value : Value)

def elementHeader : Reader Line := do
  Reader.word ['[', '[']
  let path ← key
  Reader.word [']', ']']
  return .element path

def tableHeader : Reader Line := do
  Reader.char '['
  let path ← key
  Reader.char ']'
  return .table path

def pairLine : Reader Line := do
  let (path, found) ← pairOf value
  return .pair path found

def line : Reader Line := do
  spaces
  let said ← Reader.option (elementHeader <|> tableHeader <|> pairLine)
  spaces
  let _ ← Reader.option comment
  newline <|> Reader.finish
  return said.getD .blank

structure Draft where
  path : List String
  entries : Entries

namespace Draft

def openAt (draft : Draft) (path : List String) (change : String → Entries → Option Entries) :
    Option Draft := do
  let last ← path.getLast?
  return ⟨path, ← draft.entries.changeAt (change last) path.dropLast⟩

def add (draft : Draft) : Line → Option Draft
  | .blank => some draft
  | .table path => draft.openAt path Entries.openTable
  | .element path => draft.openAt path Entries.openElement
  | .pair [] _ => none
  | .pair (key :: path) value => do
    return ⟨draft.path, ← draft.entries.changeAt (Entries.assign value key path) draft.path⟩

end Draft

def byteOrderMark : Char := '\ufeff'

def read (text : String) : Option Entries := do
  let lines ← (Reader.option (Reader.char byteOrderMark) *> Reader.many line).whole? text.toList
  return (← lines.foldlM Draft.add ⟨[], []⟩).entries

end DeliveryCheck.Toml
