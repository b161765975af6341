import ForeignBridge.Document.Yaml.Mark
import ForeignBridge.Document.Yaml.ScalarText

/-!
Tokens of a YAML text. In block form the columns are brackets: a block begins where an entry stands further to
the right than those before it, and ends where one stands further to the left. What looks like a scalar is a
key if a colon follows it on its line, so that a token may come before those of a scalar already read.
-/

namespace ForeignBridge.Yaml

inductive Token
  | directive (d : Directive)
  | documentStart
  | documentEnd
  | textEnd
  | blockItemsStart
  | blockEntriesStart
  | blockEnd
  | flowItemsStart
  | flowItemsEnd
  | flowEntriesStart
  | flowEntriesEnd
  | blockItem
  | flowItem
  | key
  | value
  | alias (name : String)
  | anchor (name : String)
  | tag (t : WrittenTag)
  | scalar (isPlain : Bool) (text : String)
deriving DecidableEq, Repr, Inhabited

structure PossibleKey where
  before : Nat
  /-- whether it must be a key, since it stands where the keys of its block do -/
  required : Bool
  start : Cursor
deriving Repr, Inhabited

def longestKey : Nat := 1024

/-- Whether a key can no longer end here: it stands on one line and is not too long. -/
def PossibleKey.isPast (k : PossibleKey) (c : Cursor) : Bool :=
  k.start.line ≠ c.line || longestKey < c.index - k.start.index

/-- A text read in part, with the tokens found. -/
structure Tokens where
  cursor : Cursor
  found : Array Token
  flow : Int
  /-- the column of the innermost block, and those of the blocks around it -/
  indent : Int
  outer : List Int
  keysAllowed : Bool
  /-- the possible keys by the number of brackets around them -/
  keys : List (Int × PossibleKey)
  ended : Bool

namespace Tokens

def ofText (cs : List Char) : Tokens := ⟨.ofText cs, #[], 0, -1, [], true, [], false⟩

abbrev Step := StateT Tokens (Except Unread)

def malformed {α : Type} : Step α := throw .malformed

def scan {α : Type} (x : Scan α) : Step α := do
  let s ← get
  let (a, c) ← x.run s.cursor
  set { s with cursor := c }
  return a

def push (t : Token) : Step Unit := modify fun s => { s with found := s.found.push t }

def allowKeys (allowed : Bool) : Step Unit := modify fun s => { s with keysAllowed := allowed }

def currentKeys (s : Tokens) : List (Int × PossibleKey) := s.keys.filter (!·.2.isPast s.cursor)

/-- Forgets the possible keys that can no longer be ones; none of them may be required. -/
def forgetPastKeys : Step Unit := do
  let s ← get
  if s.keys.any fun k => k.2.isPast s.cursor && k.2.required then malformed
  set { s with keys := s.currentKeys }

/-- Forgets the possible key inside the innermost bracket, which must not be required. -/
def forgetKey : Step Unit := do
  let s ← get
  if s.keys.any fun k => k.1 = s.flow && k.2.required then malformed
  set { s with keys := s.keys.filter (·.1 ≠ s.flow) }

def rememberKey : Step Unit := do
  let s ← get
  if s.keysAllowed then
    forgetKey
    let key : PossibleKey := ⟨s.found.size, s.flow = 0 && s.indent = s.cursor.column, s.cursor⟩
    modify fun s => { s with keys := (s.flow, key) :: s.keys }

/-- The blocks that are left, and the tokens, when those to the right of a column have ended. -/
def closeBlocks (column : Int) (indent : Int) (found : Array Token) :
    List Int → Int × Array Token × List Int
  | [] => (indent, found, [])
  | next :: rest =>
    if column < indent then closeBlocks column next (found.push .blockEnd) rest
    else (indent, found, next :: rest)

/-- Ends the blocks to the right of a column, outside brackets. -/
def endBlocks (column : Int) : Step Unit :=
  modify fun s =>
    if s.flow ≠ 0 then s
    else
      let (indent, found, outer) := closeBlocks column s.indent s.found s.outer
      { s with indent := indent, found := found, outer := outer }

/-- Begins a block at a column, if none has begun there; its token stands behind so many others. -/
def beginBlock (column : Int) (before : Nat) (t : Token) : Step Unit :=
  modify fun s =>
    if s.indent < column then
      { s with indent := column, outer := s.indent :: s.outer, found := s.found.insertIdxIfInBounds before t }
    else s

/-- Begins a block here, outside brackets, where an entry may begin. -/
def beginBlockHere (t : Token) : Step Unit := do
  let s ← get
  if s.flow = 0 then
    if !s.keysAllowed then malformed
    beginBlock s.cursor.column s.found.size t

def sign (length : Nat) (t : Token) : Step Unit := do
  scan (Scan.skip length)
  push t

/-- Passes spaces, comments and line breaks. Outside brackets a key may begin behind a line break. -/
def skipGap : Nat → Step Unit
  | 0 => return
  | fuel + 1 => do
    scan do
      Scan.skipWhile (· = ' ')
      Scan.comment
    if (← scan Scan.lineBreak) ≠ [] then
      if (← get).flow = 0 then allowKeys true
      skipGap fuel

def betweenDocuments : Step Unit := do
  endBlocks (-1)
  forgetKey
  allowKeys false

def openBracket (t : Token) : Step Unit := do
  rememberKey
  modify fun s => { s with flow := s.flow + 1, keysAllowed := true }
  sign 1 t

def closeBracket (t : Token) : Step Unit := do
  forgetKey
  modify fun s => { s with flow := s.flow - 1, keysAllowed := false }
  sign 1 t

def flowItem : Step Unit := do
  allowKeys true
  forgetKey
  sign 1 .flowItem

def blockItem : Step Unit := do
  beginBlockHere .blockItemsStart
  allowKeys true
  forgetKey
  sign 1 .blockItem

def explicitKey : Step Unit := do
  beginBlockHere .blockEntriesStart
  allowKeys ((← get).flow = 0)
  forgetKey
  sign 1 .key

/-- A colon makes a key of what a key may have begun with. -/
def value : Step Unit := do
  let s ← get
  match s.keys.lookup s.flow with
  | some k =>
    let keys := s.keys.filter (·.1 ≠ s.flow)
    set { s with keys := keys, found := s.found.insertIdxIfInBounds k.before .key, keysAllowed := false }
    if s.flow = 0 then beginBlock k.start.column k.before .blockEntriesStart
  | none =>
    beginBlockHere .blockEntriesStart
    allowKeys (s.flow = 0)
    forgetKey
  sign 1 .value

/-- A token before which a key may begin, and behind which none does. -/
def node (x : Scan Token) : Step Unit := do
  rememberKey
  allowKeys false
  push (← scan x)

def blockScalar (folds : Bool) : Step Unit := do
  allowKeys true
  forgetKey
  let s ← get
  push (.scalar false (String.ofList (← scan (Yaml.blockScalar folds s.indent))))

def plainScalar : Step Unit := do
  rememberKey
  let s ← get
  let (text, broke) ← scan (Yaml.plainScalar (s.flow ≠ 0) (s.indent + 1))
  allowKeys broke
  push (.scalar true (String.ofList text))

def startsPlain (s : Tokens) : Bool :=
  match s.cursor.rest with
  | [] => false
  | c :: rest =>
    if separates (some c) then false
    else if "-?:,[]\x7b\x7d#&*!|>'\"%@`".toList.contains c then
      !separates rest.head? && (c = '-' || (s.flow = 0 && (c = '?' || c = ':')))
    else true

def finish : Step Unit := do
  betweenDocuments
  modify fun s => { s with keys := [], ended := true }
  push .textEnd

/-- Reads the next token, with those that it shows to come before it. -/
def more : Step Unit := do
  let s ← get
  if s.cursor.index = 0 && s.cursor.rest.head? = some '\ufeff' then scan (Scan.skip 1)
  skipGap (s.cursor.rest.length + 1)
  forgetPastKeys
  endBlocks (← get).cursor.column
  let s ← get
  let apart := separates (s.cursor.rest.drop 1).head?
  match s.cursor.rest.head? with
  | none => finish
  | some c =>
    let atStart := s.cursor.column = 0
    if c = '%' && atStart then
      betweenDocuments
      push (.directive (← scan Scan.directive))
    else if atStart && s.cursor.atThree '-' then
      betweenDocuments
      sign 3 .documentStart
    else if atStart && s.cursor.atThree '.' then
      betweenDocuments
      sign 3 .documentEnd
    else if c = '[' then openBracket .flowItemsStart
    else if c = '\x7b' then openBracket .flowEntriesStart
    else if c = ']' then closeBracket .flowItemsEnd
    else if c = '\x7d' then closeBracket .flowEntriesEnd
    else if c = ',' then flowItem
    else if c = '-' && apart then blockItem
    else if c = '?' && (s.flow ≠ 0 || apart) then explicitKey
    else if c = ':' && (s.flow ≠ 0 || apart) then value
    else if c = '*' then node (.alias <$> Scan.name)
    else if c = '&' then node (.anchor <$> Scan.name)
    else if c = '!' then node (.tag <$> Scan.tag)
    else if c = '|' && s.flow = 0 then blockScalar false
    else if c = '>' && s.flow = 0 then blockScalar true
    else if c = '\'' || c = '"' then
      node ((Token.scalar false ∘ String.ofList) <$> Yaml.quotedScalar c)
    else if s.startsPlain then plainScalar
    else malformed

/-- The tokens that are certain: no key can come before any of them. -/
def certain (s : Tokens) : List Token :=
  let least := s.currentKeys.foldl (fun n k => min n k.2.before) s.found.size
  (s.found.extract 0 least).toList

/-- All tokens of a text, or those that are certain before the one that cannot be read, and why. -/
def readAll : Nat → Tokens → List Token × Unread
  | 0, s => (s.certain, .malformed)
  | fuel + 1, s =>
    match more.run s with
    | .error why => (s.certain, why)
    | .ok (_, s) => if s.ended then (s.found.toList, .malformed) else readAll fuel s

end Tokens

end ForeignBridge.Yaml
