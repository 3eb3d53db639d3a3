import DeliveryCheck.Yaml.Block
import DeliveryCheck.Yaml.Plain
import DeliveryCheck.Yaml.Quoted
import DeliveryCheck.Yaml.Token
/-!
The tokens of a text. Blocks open and close with the indentation. That something is the key of a
mapping shows only at the colon after it, so each place where a key could start is remembered; it is
given up at the end of the line or after 1024 characters, and the key's token is put in afterwards.
-/

namespace DeliveryCheck.Yaml

structure PossibleKey where
  place : Cursor
  position : Nat
  /-- Nothing but a key makes sense there. -/
  required : Bool

structure Layout where
  here : Cursor
  /-- The column of the innermost block, -1 outside all of them. -/
  indent : Int := -1
  outerIndents : List Int := []
  key : Option PossibleKey := none
  /-- One for each flow collection that is open. -/
  outerKeys : List (Option PossibleKey) := []
  keyAllowed : Bool := true
  /-- The latest token first. -/
  tokens : List Token := []

namespace Layout

abbrev Lexer := StateT Layout Option

def inFlow (layout : Layout) : Bool := !layout.outerKeys.isEmpty

def size (layout : Layout) : Nat := layout.here.size

def insert (layout : Layout) (position : Nat) (token : Token) : Layout :=
  { layout with tokens := layout.tokens.insertIdx (layout.tokens.length - position) token }

def scan {α : Type} (step : Scan α) : Lexer α := fun layout =>
  match step layout.here with
  | some (found, here) => some (found, { layout with here := here })
  | none => none

def emit (token : Token) : Lexer Unit :=
  modify fun layout => { layout with tokens := token :: layout.tokens }

def allowKey (allowed : Bool) : Lexer Unit :=
  modify fun layout => { layout with keyAllowed := allowed }

/-- Gives up the place where a key may have started, unless it was one where a key has to be. -/
def forgetKey : Lexer Unit := do
  let layout ← get
  guard (!layout.key.any (·.required))
  set { layout with key := none }

def PossibleKey.isStale (key : PossibleKey) (here : Cursor) : Bool :=
  key.place.line < here.line || key.place.index + 1024 < here.index

def forgetStaleKeys : Lexer Unit := do
  let layout ← get
  let stale := fun (key : PossibleKey) => PossibleKey.isStale key layout.here
  let keys := layout.key :: layout.outerKeys
  guard (!keys.any (·.any fun key => stale key && key.required))
  let kept := fun (key : Option PossibleKey) => key.filter (!stale ·)
  set { layout with key := kept layout.key, outerKeys := layout.outerKeys.map kept }

def rememberKey : Lexer Unit := do
  let layout ← get
  if layout.keyAllowed then
    forgetKey
    let required := !layout.inFlow && layout.indent == (layout.here.column : Int)
    modify fun layout =>
      { layout with key := some ⟨layout.here, layout.tokens.length, required⟩ }

/-- Opens a block at a column further in, its token after the first `position` ones. -/
def openBlock (column : Nat) (position : Nat) (token : Token) : Lexer Unit :=
  modify fun layout =>
    if !layout.inFlow && layout.indent < (column : Int) then
      { layout.insert position token with
        indent := (column : Int), outerIndents := layout.indent :: layout.outerIndents }
    else layout

def openBlockHere (token : Token) : Lexer Unit := do
  let layout ← get
  openBlock layout.here.column layout.tokens.length token

/-- The blocks that stay open and the number of those that close, when a column is reached. -/
def closing (column indent : Int) : List Int → Int × List Int × Nat
  | [] => (indent, [], 0)
  | outer :: others =>
    if column < indent then
      let (indent, left, count) := closing column outer others
      (indent, left, count + 1)
    else (indent, outer :: others, 0)

def closeBlocks (column : Int) : Lexer Unit :=
  modify fun layout =>
    if layout.inFlow then layout
    else
      let (indent, outer, count) := closing column layout.indent layout.outerIndents
      { layout with
        indent := indent, outerIndents := outer
        tokens := List.replicate count .blockEnd ++ layout.tokens }

/-- Blanks before a token; tabs count as blanks only where no key can start. -/
def skipBlanks : Lexer Unit := do
  let layout ← get
  let _ ← scan (Scan.run fun c => c == ' ' || (c == '\t' && (layout.inFlow || !layout.keyAllowed)))
  scan Scan.comment

def skipLine : Lexer Unit := do
  skipBlanks
  let _ ← scan Scan.lineBreak
  unless (← get).inFlow do allowKey true

def toNextToken : Lexer Unit := do
  let _ ← collectAll size skipLine
  skipBlanks
  forgetStaleKeys
  closeBlocks (← get).here.column

def outside (token : Scan Token) : Lexer Unit := do
  closeBlocks (-1)
  forgetKey
  allowKey false
  emit (← scan token)

def mark (token : Token) (length : Nat) : Scan Token := do
  Scan.skip length
  return token

def openFlow (token : Token) : Lexer Unit := do
  rememberKey
  modify fun layout => { layout with key := none, outerKeys := layout.key :: layout.outerKeys }
  allowKey true
  emit (← scan (mark token 1))

def closeFlow (token : Token) : Lexer Unit := do
  forgetKey
  modify fun layout =>
    match layout.outerKeys with
    | [] => layout
    | key :: others => { layout with key := key, outerKeys := others }
  allowKey false
  emit (← scan (mark token 1))

def flowEntry : Lexer Unit := do
  forgetKey
  allowKey true
  emit (← scan (mark .flowEntry 1))

def blockEntry : Lexer Unit := do
  let layout ← get
  unless layout.inFlow do
    guard layout.keyAllowed
    openBlockHere .blockSequenceStart
  forgetKey
  allowKey true
  emit (← scan (mark .blockEntry 1))

def explicitKey : Lexer Unit := do
  let layout ← get
  unless layout.inFlow do
    guard layout.keyAllowed
    openBlockHere .blockMappingStart
  forgetKey
  allowKey (!layout.inFlow)
  emit (← scan (mark .key 1))

def value : Lexer Unit := do
  let layout ← get
  match layout.key with
  | some key =>
    modify (·.insert key.position .key)
    openBlock key.place.column key.position .blockMappingStart
    modify fun layout => { layout with key := none }
    allowKey false
  | none =>
    unless layout.inFlow do
      guard layout.keyAllowed
      openBlockHere .blockMappingStart
    allowKey (!layout.inFlow)
  emit (← scan (mark .value 1))

def contentToken (token : Scan Token) : Lexer Unit := do
  rememberKey
  allowKey false
  emit (← scan token)

def anchorName : Scan String := do
  Scan.skip 1
  let name ← Scan.run1 isWord
  guard ((← get).peek?.all fun c => isGap c || "?:,]\x7d%@\x60".toList.contains c)
  return String.ofList name

def plain : Lexer Unit := do
  rememberKey
  allowKey false
  let layout ← get
  let (text, broken) ← scan (PlainContext.text ⟨layout.indent + 1, layout.inFlow⟩)
  if broken then allowKey true
  emit (.scalar .plain text)

def block (literal : Bool) : Lexer Unit := do
  forgetKey
  allowKey true
  let layout ← get
  scan (Scan.skip 1)
  let text ← scan (blockText literal layout.indent)
  emit (.scalar (if literal then .literal else .folded) text)

def startsPlain (layout : Layout) (c : Char) : Bool :=
  let here := layout.here
  !(isGap c || isIndicator c) || (c == '-' && !(here.peek? 1).any isBlank) ||
    (!layout.inFlow && (c == '?' || c == ':') && !here.isGapAt 1)

/-- The next token and those that the indentation puts before it. -/
def next : Lexer Unit := do
  toNextToken
  let layout ← get
  let here := layout.here
  match here.peek? with
  | none => failure
  | some c =>
    if here.column = 0 ∧ c = '%' then outside (Token.directive <$> Directive.read)
    else if here.isAtMarker '-' then outside (mark .documentStart 3)
    else if here.isAtMarker '.' then outside (mark .documentEnd 3)
    else if c = '[' then openFlow .flowSequenceStart
    else if c = '\x7b' then openFlow .flowMappingStart
    else if c = ']' then closeFlow .flowSequenceEnd
    else if c = '\x7d' then closeFlow .flowMappingEnd
    else if c = ',' then flowEntry
    else if c = '-' ∧ here.isGapAt 1 then blockEntry
    else if c = '?' ∧ (layout.inFlow ∨ here.isGapAt 1) then explicitKey
    else if c = ':' ∧ (layout.inFlow ∨ here.isGapAt 1) then value
    else if c = '*' then contentToken (Token.alias <$> anchorName)
    else if c = '&' then contentToken (Token.anchor <$> anchorName)
    else if c = '!' then contentToken (Token.tag <$> TagName.read layout.inFlow)
    else if c = '|' ∧ !layout.inFlow then block true
    else if c = '>' ∧ !layout.inFlow then block false
    else if c = '\'' then contentToken (Token.scalar .singleQuoted <$> singleQuoted)
    else if c = '"' then contentToken (Token.scalar .doubleQuoted <$> doubleQuoted)
    else if layout.startsPlain c then plain
    else failure

def all : Lexer (List Token) := do
  let _ ← collectAll size next
  toNextToken
  guard (← get).here.isAtEnd
  closeBlocks (-1)
  forgetKey
  return (← get).tokens.reverse

end Layout

def byteOrderMark : Char := '\ufeff'

/-- The start of a text. A mark of the byte order is passed over, but it has a column of its own. -/
def Cursor.start (text : String) : Cursor :=
  let start : Cursor := { rest := text.toList }
  if start.peek? == some byteOrderMark then start.advance 1 else start

def tokens? (text : String) : Option (List Token) :=
  if text.toList.all isAllowed then (Layout.all { here := .start text }).map (·.1) else none

end DeliveryCheck.Yaml
