import ForeignBridge.Document.Yaml.Cursor
import ForeignBridge.Text.Hex
import ForeignBridge.Text.Surrogate

/-!
The texts of YAML scalars as they are written: without quotes, in single or double quotes, and as blocks of
lines. Texts that go on over several lines are folded: a single line break counts as a space, more of them
as line breaks one fewer.
-/

namespace ForeignBridge.Yaml

/-- What a line break and the empty lines behind it stand for. -/
def folded (first : List Char) (more : List Char) : List Char :=
  if first ≠ ['\n'] then first ++ more else if more.isEmpty then [' '] else more

/-! Without quotes -/

def flowMarks : List Char := ",?[]\x7b\x7d".toList

/-- Whether a character ends a part of a plain scalar; `next` is the one behind it. -/
def endsPlain (inFlow : Bool) (c : Char) (next : Option Char) : Bool :=
  isSpaceOrTab c || isBreak c
    || (c = ':' && (separates next || (inFlow && next.any ",[]\x7b\x7d".toList.contains)))
    || (inFlow && flowMarks.contains c)

/-- The characters of a plain scalar up to a gap or its end. -/
def plainPart (inFlow : Bool) : List Char → List Char
  | [] => []
  | c :: rest => if endsPlain inFlow c rest.head? then [] else c :: plainPart inFlow rest

/-- Passes spaces and empty lines inside a plain scalar and gives the line breaks; `none` at a mark between
documents. -/
def plainBreaks : Nat → List Char → Scan (Option (List Char))
  | 0, _ => return none
  | fuel + 1, sofar => do
    if (← get).atMark then return none
    Scan.skipWhile (· = ' ')
    match ← Scan.lineBreak with
    | [] => return some sofar.reverse
    | b => plainBreaks fuel (b ++ sofar)

/-- Passes the gap behind a part of a plain scalar. Gives what it stands for, if the scalar may go on, and
whether a line ended. -/
def plainGap : Scan (Option (List Char) × Bool) := do
  let spaces ← Scan.takeWhile (· = ' ')
  match ← Scan.lineBreak with
  | [] => return (some spaces, false)
  | b =>
    match ← plainBreaks ((← get).rest.length + 1) [] with
    | some more => return (some (folded b more), true)
    | none => return (none, true)

/-- The rest of a plain scalar, after a gap and the text before it, and whether a line ended behind it. -/
def plainParts (inFlow : Bool) (indent : Int) : Nat → Bool → List Char → List Char →
    Scan (List Char × Bool)
  | 0, _, _, _ => Scan.malformed
  | fuel + 1, broke, gap, sofar => do
    let rest := (← get).rest
    let part := plainPart inFlow rest
    if rest.head? = some '#' || part.isEmpty then return (sofar.reverse, broke)
    Scan.skip part.length
    let sofar := part.reverseAux (gap.reverseAux sofar)
    match ← plainGap with
    | (none, broke) => return (sofar.reverse, broke)
    | (some gap, broke) =>
      let c ← get
      if gap.isEmpty || c.rest.head? = some '#' || (!inFlow && c.column < indent) then
        return (sofar.reverse, broke)
      else plainParts inFlow indent fuel broke gap sofar

/-- A plain scalar, whose lines stand at a column at least, and whether a line ended behind it. -/
def plainScalar (inFlow : Bool) (indent : Int) : Scan (List Char × Bool) := do
  plainParts inFlow indent ((← get).rest.length + 1) false [] []

/-! In quotes -/

/-- Passes blanks and empty lines inside quotes and gives the line breaks. -/
def quotedBreaks : Nat → List Char → Scan (List Char)
  | 0, _ => Scan.malformed
  | fuel + 1, sofar => do
    if (← get).atMark then Scan.malformed
    Scan.skipWhile isSpaceOrTab
    match ← Scan.lineBreak with
    | [] => return sofar.reverse
    | b => quotedBreaks fuel (b ++ sofar)

/-- The characters that a letter stands for behind a backslash. -/
def escapeMeanings : List (Char × Char) := [
  ('0', '\x00'), ('a', '\x07'), ('b', '\x08'), ('t', '\t'), ('\t', '\t'), ('n', '\n'), ('v', '\x0b'),
  ('f', '\x0c'), ('r', '\r'), ('e', '\x1b'), (' ', ' '), ('"', '"'), ('\\', '\\'), ('/', '/'),
  ('N', '\x85'), ('_', '\xa0'), ('L', '\u2028'), ('P', '\u2029')]

/-- How many digits follow a letter that announces a code. -/
def codeWidth? (c : Char) : Option Nat :=
  if c = 'x' then some 2 else if c = 'u' then some 4 else if c = 'U' then some 8 else none

/-- The character with a code of so many digits. -/
def coded (width : Nat) : Scan Char := do
  let digits := (← get).rest.take width
  match (if digits.length = width then Hex.number? digits else none) with
  | none => Scan.malformed
  | some code =>
    match Surrogate.charOf? code with
    | some c =>
      Scan.skip width
      return c
    | none =>
      if code < 2 ^ 31 then throw (.ofUnreadable .character)
      else throw (.failure (.overflow "Python int too large to convert to C int"))

def escaped : Scan (List Char) := do
  match ← Scan.next with
  | none => Scan.malformed
  | some c =>
    match escapeMeanings.lookup c, codeWidth? c with
    | some meaning, _ =>
      Scan.skip 1
      return [meaning]
    | none, some width =>
      Scan.skip 1
      return [← coded width]
    | none, none =>
      if isBreak c then
        let _ ← Scan.lineBreak
        quotedBreaks ((← get).rest.length + 1) []
      else Scan.malformed

/-- The inside of quotes up to the closing one. Single quotes inside single quotes are doubled; escapes count
in double quotes. -/
def quotedBody (quote : Char) : Nat → List Char → Scan (List Char)
  | 0, _ => Scan.malformed
  | fuel + 1, sofar => do
    match (← get).rest with
    | [] => Scan.malformed
    | c :: rest =>
      if c = quote then
        if quote = '\'' && rest.head? = some '\'' then
          Scan.skip 2
          quotedBody quote fuel ('\'' :: sofar)
        else
          Scan.skip 1
          return sofar.reverse
      else if isSpaceOrTab c || isBreak c then
        let blanks ← Scan.takeWhile isSpaceOrTab
        match ← Scan.lineBreak with
        | [] => quotedBody quote fuel (blanks.reverseAux sofar)
        | b =>
          let more ← quotedBreaks ((← get).rest.length + 1) []
          quotedBody quote fuel ((folded b more).reverseAux sofar)
      else if quote = '"' && c = '\\' then
        Scan.skip 1
        quotedBody quote fuel ((← escaped).reverseAux sofar)
      else
        Scan.skip 1
        quotedBody quote fuel (c :: sofar)

def quotedScalar (quote : Char) : Scan (List Char) := do
  Scan.skip 1
  quotedBody quote ((← get).rest.length + 1) []

/-! Blocks of lines -/

/-- What happens to the line breaks at the end of a block. -/
inductive Chomping
  /-- none is kept -/
  | strip
  | clip
  | keep
deriving DecidableEq, Repr

def chomping? : Option Char → Option Chomping
  | some '+' => some .keep
  | some '-' => some .strip
  | _ => none

/-- The digit that tells how far a block is indented. -/
def increment? : Scan (Option Nat) := do
  match ← Scan.next with
  | some c =>
    if '0' ≤ c && c ≤ '9' then
      if c = '0' then Scan.malformed
      Scan.skip 1
      return some (c.toNat - 48)
    else return none
  | none => return none

/-- The marks behind the one that starts a block, in either order. -/
def blockMarks : Scan (Chomping × Option Nat) := do
  let first := chomping? (← Scan.next)
  if first.isSome then Scan.skip 1
  let increment ← increment?
  let next ← Scan.next
  let second := if first.isSome || increment.isNone then none else chomping? next
  if second.isSome then Scan.skip 1
  if endsWord (← Scan.next) then return ((first <|> second).getD .clip, increment) else Scan.malformed

/-- Passes what is left of a line that holds nothing more. -/
def emptyRest : Scan Unit := do
  Scan.skipWhile (· = ' ')
  Scan.comment
  if endsLine (← Scan.next) then let _ ← Scan.lineBreak
  else Scan.malformed

/-- Passes spaces and empty lines before a block and gives the line breaks and the greatest column. -/
def leadingBreaks : Nat → Nat → List Char → Scan (List Char × Nat)
  | 0, greatest, sofar => return (sofar.reverse, greatest)
  | fuel + 1, greatest, sofar => do
    Scan.skipWhile (· = ' ')
    let greatest := max greatest (← get).column
    match ← Scan.lineBreak with
    | [] => return (sofar.reverse, greatest)
    | b => leadingBreaks fuel greatest (b ++ sofar)

def skipIndent (indent : Nat) : Scan Unit := do
  let c ← get
  Scan.skip (((c.rest.take (indent - c.column)).takeWhile (· = ' ')).length)

/-- Passes empty lines in a block and gives their line breaks. -/
def blockBreaks (indent : Nat) : Nat → List Char → Scan (List Char)
  | 0, sofar => return sofar.reverse
  | fuel + 1, sofar => do
    skipIndent indent
    match ← Scan.lineBreak with
    | [] => return sofar.reverse
    | b => blockBreaks indent fuel (b ++ sofar)

/-- The lines of a block: its text, the break behind it, and those of the empty lines that follow. -/
def blockLines (folds : Bool) (indent : Nat) : Nat → List Char → List Char →
    Scan (List Char × List Char × List Char)
  | 0, _, _ => Scan.malformed
  | fuel + 1, before, sofar => do
    let startsLine (c : Cursor) : Bool := c.column = indent && !c.rest.isEmpty
    let isIndented (c : Cursor) : Bool := c.rest.head?.any isSpaceOrTab
    let first ← get
    let line ← Scan.takeWhile (!isBreak ·)
    let sofar := line.reverseAux (before.reverseAux sofar)
    let b ← Scan.lineBreak
    let more ← blockBreaks indent ((← get).rest.length + 1) []
    let c ← get
    if !startsLine c then return (sofar.reverse, b, more)
    else
      let joins := folds && b = ['\n'] && !isIndented first && !isIndented c
      let gap := if !joins then b ++ more else if more.isEmpty then [' '] else more
      blockLines folds indent fuel gap sofar

/-- A block scalar, behind the mark that tells whether it folds its lines, inside a block at a column. -/
def blockScalar (folds : Bool) (outer : Int) : Scan (List Char) := do
  Scan.skip 1
  let (chomping, increment) ← blockMarks
  emptyRest
  let least := max 1 (outer + 1).toNat
  let fuel := (← get).rest.length + 1
  let (breaks, indent) ←
    match increment with
    | none => do
      let (breaks, greatest) ← leadingBreaks fuel 0 []
      pure (breaks, max least greatest)
    | some n => do
      let indent := least + n - 1
      pure (← blockBreaks indent fuel [], indent)
  let c ← get
  let (text, last, breaks) ←
    if c.column = indent && !c.rest.isEmpty then blockLines folds indent fuel breaks []
    else pure ([], [], breaks)
  match chomping with
  | .strip => return text
  | .clip => return text ++ last
  | .keep => return text ++ last ++ breaks

end ForeignBridge.Yaml
