import ForeignBridge.Document.Toml.Lines
import ForeignBridge.Document.Toml.Entry

/-!
Reading TOML: entries, tables under headings, and lists of tables. Entries go into the table of the last
heading; a heading comes once, but a table that another heading has only led through may still get its own.
-/

namespace ForeignBridge.Toml

/-- A text in three quotes that goes on in the next line, with what was read of it. -/
structure LongText where
  key : String
  text : Chars
  joins : Bool

structure Filling where
  root : Value
  /-- the way to the table that entries go into -/
  way : Way
  /-- the names of tables that headings have only led through -/
  implicit : List String
  long : Option LongText

namespace Filling

def current (s : Filling) : Value := s.way.find s.root

def setCurrent (s : Filling) (v : Value) : Filling := { s with root := s.way.put v s.root }

/-- Whether a line closes the text that goes on in it. -/
def closes (text line : Chars) : Except Unread Bool := do
  let first ← charAt text 0
  if first = '[' then return (← lastChar line) = ']'
  else return 2 < line.length && (line.reverse.take 3).all (· = first)

/-- Adds a line to a text that goes on. -/
def goOn (s : Filling) (t : LongText) (line : Chars) : Except Unread Filling := do
  let text := t.text ++ line
  if ← closes text line then
    let (v, _) ← value (fuelFor text) deepest text true
    return { s.setCurrent (← withItem s.current t.key v) with long := none }
  else
    let joins := endsInEscape text
    return { s with long := some ⟨t.key, if joins then text.dropLast else text ++ ['\n'], joins⟩ }

/-! Headings -/

/-- Whether a name may stand in a heading without quotes. -/
def isBareName (cs : Chars) : Bool := !cs.isEmpty && cs.all fun c => c.isAlphanum || c = '_' || c = '-'

/-- Joins the parts of a name in quotes that were cut at points. `count` is how many parts there are. -/
def joinName (count : Nat) : Nat → Chars → List Chars → Except Unread (Chars × List Chars)
  | 0, _, _ => malformed
  | left + 1, name, rest =>
    if 1 < name.length && name.head? = name.getLast? then .ok (inner name, rest)
    else
      match rest with
      | part :: rest => joinName count left (trimGaps (name ++ '.' :: part)) rest
      | [] => malformed

/-- The names of a heading, from its parts around the points. -/
def headingNames : Nat → List Chars → Except Unread (List String)
  | 0, _ => malformed
  | _, [] => .ok []
  | fuel + 1, part :: rest => do
    let name := trimGaps part
    if name.head?.any Sweep.isQuote then
      let (name, rest) ← joinName (rest.length + 1) (rest.length + 1) name rest
      return String.ofList name :: (← headingNames fuel rest)
    else if isBareName name then return String.ofList name :: (← headingNames fuel rest)
    else malformed

/-- What stands between the brackets of a heading; nothing may follow them. -/
def headingText (closing line : Chars) : Except Unread Chars := do
  let count := 1 + quotedCount closing false (quoteParts line)
  let parts := Split.atMost closing count line
  if parts.length < count + 1 || !(trimGaps (parts.getLastD [])).isEmpty then malformed
  else return Split.join closing parts.dropLast

/-- Goes to the table under a name that a heading leads to, with the way so far. `isItem` tells whether the
heading is of a list of tables, and `isLast` whether it ends with this name. -/
def enter (isItem isLast : Bool) (s : Filling) (name : String) : Except Unread Filling := do
  if name.isEmpty then malformed
  let fresh : Value := if isLast && isItem then .list [.dict []] else .dict []
  let here := s.current
  let s ←
    match item? here name with
    | .ok (some v) =>
      if !isLast then pure s
      else if s.implicit.contains name then
        if isItem then malformed else pure { s with implicit := s.implicit.erase name }
      else if !isItem then malformed
      else
        match v with
        | .list items => pure (s.setCurrent (← withItem here name (.list (items ++ [.dict []]))))
        | v => throw (.failure (.noAttribute v.qualifiedTypeName "append"))
    | .ok none =>
      let s := s.setCurrent (← withItem here name fresh)
      pure (if isLast then s else { s with implicit := s.implicit ++ [name] })
    | .error _ =>
      let v := (← last? here).getD .null
      let s := { s with way := s.way ++ [.last] }
      if ← holds v name then pure s else pure (s.setCurrent (← withItem v name fresh))
  match item? s.current name with
  | .error why => misused why
  | .ok found =>
    let s := { s with way := s.way ++ [.name name] }
    if !isItem then return s
    match ← last? (found.getD .null) with
    | some _ => return { s with way := s.way ++ [.last] }
    | none => return s

def enterAll (isItem : Bool) : Filling → List String → Except Unread Filling
  | s, [] => .ok s
  | s, name :: rest => do enterAll isItem (← s.enter isItem rest.isEmpty name) rest

def heading (s : Filling) (line : Chars) : Except Unread Filling := do
  let rest := line.drop 1
  if rest.isEmpty then malformed
  let isItem := rest.head? = some '['
  let text ← if isItem then headingText "]]".toList (rest.drop 1) else headingText [']'] rest
  let names ← headingNames (text.length + 2) (Split.atChar '.' text)
  enterAll isItem { s with way := [] } names

/-- Reads a line. Lines without an equals sign say nothing, unless they are headings. -/
def addLine (s : Filling) (line : Chars) : Except Unread Filling := do
  let keepsBlanks := s.long.any fun t => !t.joins && t.text.contains '\n'
  let line := if keepsBlanks then line else trimGaps line
  match s.long with
  | some t => if line.isEmpty && t.joins then return s else s.goOn t line
  | none =>
    match line with
    | [] => return s
    | '[' :: _ => s.heading line
    | '\x7b' :: _ =>
      if line.getLast? ≠ some '\x7d' then malformed
      return s.setCurrent (← inlineTable (fuelFor line) deepest line s.current)
    | _ =>
      if !line.contains '=' then return s
      let (v, opened) ← entry (fuelFor line) deepest line s.current
      return { s.setCurrent v with long := opened.map fun o => ⟨o.key, o.text, o.joins⟩ }

end Filling

def read (s : String) : Except Unread Value := do
  let filled ← (← lines s.toList).foldlM Filling.addLine ⟨.dict [], [], [], none⟩
  return filled.root

end ForeignBridge.Toml
