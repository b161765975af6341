import ForeignBridge.Document.Unread

/-!
A cursor over a YAML text, which knows its line and its column, and scans: steps of reading that may refuse
the text.
-/

namespace ForeignBridge.Yaml

def isBreak (c : Char) : Bool := c = '\n' || c = '\x85' || c = '\u2028' || c = '\u2029'

def isSpaceOrTab (c : Char) : Bool := c = ' ' || c = '\t'

/-- Whether what comes next separates words: a blank, a line break or the end. -/
def separates (next : Option Char) : Bool := next.all fun c => isSpaceOrTab c || isBreak c

/-- Whether what comes next ends a line, or a word that no tab may follow. -/
def endsWord (next : Option Char) : Bool := next.all fun c => c = ' ' || isBreak c

def endsLine (next : Option Char) : Bool := next.all isBreak

structure Cursor where
  rest : List Char
  index : Nat
  line : Nat
  column : Nat
deriving Repr, Inhabited

namespace Cursor

def ofText (cs : List Char) : Cursor := ⟨cs, 0, 0, 0⟩

/-- Passes a character. A byte order mark takes no column. -/
def step (c : Cursor) : Cursor :=
  match c.rest with
  | [] => c
  | ch :: rest =>
    if isBreak ch then ⟨rest, c.index + 1, c.line + 1, 0⟩
    else ⟨rest, c.index + 1, c.line, if ch = '\ufeff' then c.column else c.column + 1⟩

def skip (c : Cursor) : Nat → Cursor
  | 0 => c
  | n + 1 => c.step.skip n

/-- Whether three of a character stand here with a blank behind them. -/
def atThree (mark : Char) (c : Cursor) : Bool :=
  match c.rest with
  | x :: y :: z :: rest => x = mark && y = mark && z = mark && separates rest.head?
  | _ => false

def atMark (c : Cursor) : Bool := c.atThree '-' || c.atThree '.'

end Cursor

abbrev Scan := StateT Cursor (Except Unread)

namespace Scan

def malformed {α : Type} : Scan α := throw .malformed

def next : Scan (Option Char) := return (← get).rest.head?

def skip (n : Nat) : Scan Unit := modify fun c => c.skip n

def takeWhile (p : Char → Bool) : Scan (List Char) := do
  let cs := (← get).rest.takeWhile p
  skip cs.length
  return cs

def skipWhile (p : Char → Bool) : Scan Unit := do
  let _ ← takeWhile p

/-- Passes a line break, if one stands here. All breaks are one character, but for two that stay. -/
def lineBreak : Scan (List Char) := do
  match ← next with
  | some c =>
    if !isBreak c then return []
    else
      skip 1
      return [if c = '\x85' then '\n' else c]
  | none => return []

def comment : Scan Unit := do
  if (← next) = some '#' then skipWhile (!isBreak ·)

end Scan

end ForeignBridge.Yaml
