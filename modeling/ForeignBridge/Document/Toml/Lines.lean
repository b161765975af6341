import ForeignBridge.Document.Unread
import ForeignBridge.Text.Alphanumeric
import ForeignBridge.Text.Blank
import ForeignBridge.Text.Split

/-!
The lines of a TOML text. Comments become blanks, and so do the line breaks inside lists, so that an entry
stands on one line; only a text in three quotes goes on over several. Keys are looked over on the way.
-/

namespace ForeignBridge.Toml

/-- Where a sweep over a text stands with the key of a line. -/
inductive KeyPhase
  | outside
  | inside
  | behind
deriving DecidableEq, Repr

inductive Heading
  | none
  | table
  | item
deriving DecidableEq, Repr

structure Sweep where
  cells : Array Char
  quote : Option Char
  long : Bool
  heading : Heading
  lists : Int
  atStart : Bool
  key : KeyPhase
  dotted : Bool

namespace Sweep

def ofText (cs : List Char) : Sweep := ⟨cs.toArray, none, false, .none, 0, true, .outside, false⟩

/-- The character at a place; places before the first are counted from the end. -/
def cell? (s : Sweep) (i : Int) : Option Char :=
  if 0 ≤ i then s.cells[i.toNat]?
  else if 0 ≤ i + s.cells.size then s.cells[(i + s.cells.size).toNat]?
  else none

def isQuote (c : Char) : Bool := c = '"' || c = '\''

/-- How far before a place a run of a character starts, three at most; one if there is none. -/
def runBefore (s : Sweep) (c : Char) (i : Int) : Nat :=
  if s.cell? (i - 1) ≠ some c then 1 else if s.cell? (i - 2) ≠ some c then 2 else 3

/-- Whether an odd number of backslashes ends at a place. -/
def oddBackslashes (s : Sweep) (i : Int) : Nat → Bool
  | 0 => false
  | fuel + 1 => s.cell? i = some '\\' && !s.oddBackslashes (i - 1) fuel

/-- Whether the character at a place is behind an odd number of backslashes of its text. -/
def isEscaped (s : Sweep) (i : Nat) : Bool := s.oddBackslashes ((i : Int) - 1) i

/-- A key goes on where a point and blanks are behind it. -/
def keyMayGoOn (s : Sweep) (i : Nat) : Except Unread Sweep :=
  match s.cells[i + 1]? with
  | none => .error (.failure (.pastEnd "list"))
  | some c => .ok (if isGap c || c = '.' then s else { s with key := .inside })

/-- Passes a character of a key; tells whether the character was no more than that. -/
def passKey (s : Sweep) (i : Nat) (c : Char) : Except Unread (Sweep × Bool) := do
  if s.key = .outside then return (s, false)
  if c = '\n' then throw .malformed
  if let some q := s.quote then
    return (if c = q && !s.isEscaped i then { s with key := .behind, quote := none } else s, true)
  if s.key = .inside then
    if isGap c then return ({ s with key := .behind }, true)
    if c = '.' then return ({ s with dotted := true }, true)
    if isAlphanumeric c || c = '_' || c = '-' then return (s, true)
    if s.dotted && s.cell? ((i : Int) - 1) = some '.' && isQuote c then
      return ({ s with quote := some c }, true)
  else
    if isGap c then return (← if s.dotted then s.keyMayGoOn i else pure s, true)
    if c = '.' then return (← { s with dotted := true }.keyMayGoOn i, true)
  if c = '=' then return ({ s with key := .outside, dotted := false }, false)
  throw .malformed

def toggle (s : Sweep) (quote : Char) (triple : Bool) : Sweep :=
  if triple then { s with long := !s.long, quote := if s.long then none else some quote }
  else { s with quote := if s.quote.isSome then none else some quote }

/-- Passes a quote. A double one may be escaped. -/
def passQuote (s : Sweep) (i : Nat) (c : Char) : Sweep :=
  if !isQuote c || s.quote.any (· ≠ c) then s
  else
    let run := s.runBefore c i
    let escaped := c = '"' && run ≠ 2 && s.oddBackslashes ((i : Int) - run) s.cells.size
    if escaped then s else s.toggle c (run = 3)

/-- The cells with blanks from a place up to the end of the line, and whether the line has an end. -/
def blankLine (cells : Array Char) (i : Nat) : Nat → Array Char × Bool
  | 0 => (cells, false)
  | fuel + 1 =>
    match cells[i]? with
    | none => (cells, false)
    | some '\n' => (cells, true)
    | some _ => blankLine (cells.setIfInBounds i ' ') (i + 1) fuel

def passBracket (s : Sweep) (i : Nat) (c : Char) : Sweep :=
  if s.quote.isSome then s
  else if c = '[' then
    if s.heading ≠ .none then s
    else if !s.atStart then { s with lists := s.lists + 1 }
    else { s with heading := if s.cells[i + 1]? = some '[' then .item else .table }
  else if c = ']' then
    match s.heading with
    | .table => { s with heading := .none }
    | .item => if s.cell? ((i : Int) - 1) = some ']' then { s with heading := .none } else s
    | .none => { s with lists := s.lists - 1 }
  else s

/-- Passes a line break. One behind the quotes that open a long text makes them move to its place. -/
def passBreak (s : Sweep) (i : Nat) : Except Unread Sweep :=
  if s.quote.isSome || s.long then
    if !s.long then .error .malformed
    else
      match s.cell? ((i : Int) - 1) with
      | some q =>
        if isQuote q && s.cell? ((i : Int) - 2) = some q then
          let cells := s.cells.setIfInBounds i q
          .ok { s with cells := if s.cell? ((i : Int) - 3) = some q then cells.setIfInBounds (i - 3) ' ' else cells }
        else .ok s
      | none => .ok s
  else if s.lists ≠ 0 then .ok { s with cells := s.cells.setIfInBounds i ' ' }
  else .ok { s with atStart := true }

/-- Passes the first character of a line, where a key starts unless it is a heading. -/
def passStart (s : Sweep) (i : Nat) : Except Unread Sweep :=
  let c := s.cells.getD i ' '
  if !s.atStart || c = ' ' || c = '\t' then .ok s
  else if s.heading ≠ .none then .ok { s with atStart := false }
  else if c = '=' then .error .malformed
  else .ok { s with atStart := false, key := .inside }

/-- Passes the character at a place. Nothing is left to pass behind a comment that no line ends. -/
def pass (s : Sweep) (i : Nat) : Except Unread (Sweep × Bool) := do
  let c := s.cells.getD i ' '
  let (s, done) ← s.passKey i c
  if done then return (s, true)
  let s := s.passQuote i c
  if c = '#' && s.quote.isNone && s.heading = .none then
    let (cells, ended) := blankLine s.cells i (s.cells.size + 1)
    return ({ s with cells := cells }, ended)
  let s := s.passBracket i c
  let s ← if c = '\n' then s.passBreak i else s.passStart i
  return (s, true)

def passAll : Nat → Nat → Sweep → Except Unread Sweep
  | 0, _, s => .ok s
  | left + 1, i, s => do
    match ← s.pass i with
    | (s, true) => passAll left (i + 1) s
    | (s, false) => return s

end Sweep

def lines (cs : List Char) : Except Unread (List (List Char)) := do
  let s ← Sweep.passAll cs.length 0 (.ofText cs)
  if s.key ≠ .outside || s.quote.isSome then throw .malformed
  return Split.atChar '\n' s.cells.toList

end ForeignBridge.Toml
