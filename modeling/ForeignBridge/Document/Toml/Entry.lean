import ForeignBridge.Document.Toml.Lines
import ForeignBridge.Document.Toml.Scalar
import ForeignBridge.Document.Toml.Table

/-!
Entries of TOML tables, each on a line: a key, which may lead through tables, and a value. Lists and tables in
one line are cut at their commas before their parts are looked at, so that not every comma may stand in them.
-/

namespace ForeignBridge.Toml

/-- The parts of a text inside and outside quotes, in turn. -/
def quoteParts (cs : Chars) : List Chars :=
  match Split.atChar '"' cs with
  | first :: second :: rest =>
    if first.contains '\'' then
      let (singles, rest) := absorb (Split.atChar '\'' first) (second :: rest)
      singles ++ outer rest
    else outer (first :: second :: rest)
  | parts => outer parts
where
  /-- Joins parts on while a single quote is open. -/
  absorb (singles : List Chars) : List Chars → List Chars × List Chars
    | [] => (singles, [])
    | part :: rest =>
      if singles.length % 2 = 0 then
        absorb (singles.dropLast ++ Split.atChar '\'' (singles.getLastD [] ++ '"' :: part)) rest
      else (singles, part :: rest)
  outer : List Chars → List Chars
    | [] => []
    | first :: rest => Split.atChar '\'' first ++ rest

/-- How often a separator stands in quotes before it stands outside of them. -/
def quotedCount (sep : Chars) : Bool → List Chars → Nat
  | _, [] => 0
  | quoted, part :: rest =>
    let n := (Split.all sep part).length - 1
    if !quoted && n ≠ 0 then 0 else n + quotedCount sep (!quoted) rest

/-- The names that a key with points leads through. -/
def keyNames (key : Chars) : Except Unread (List Chars) :=
  let names :=
    if key.contains '"' || key.contains '\'' then alternate false (quoteParts key)
    else Split.atChar '.' key
  match (names.reverse.dropWhile (·.isEmpty)).reverse with
  | [] => .error (.failure (.pastEnd "list"))
  | names => .ok names
where
  alternate : Bool → List Chars → List Chars
    | _, [] => []
    | true, part :: rest => part :: alternate false rest
    | false, part :: rest => (Split.atChar '.' part).map trimGaps ++ alternate true rest

/-- Where an entry goes: the tables that lead there, and its name. -/
def keyPath (key : Chars) : Except Unread (List String × String) := do
  if key.contains '.' then
    let names ← keyNames key
    let through := names.dropLast.filter (!·.isEmpty)
    return (through.map String.ofList, String.ofList (trimGaps (names.getLastD [])))
  else
    let first ← charAt key 0
    if (first = '"' || first = '\'') && key.getLast? = some first then
      return ([], String.ofList (← unescape (inner key)))
    else return ([], String.ofList key)

/-- Whether a text can be a value as it is, or starts as one that is not a number. -/
def isWhole (v : Chars) : Except Unread Bool := do
  match v with
  | [] => return true
  | c :: _ =>
    if " \t'\"[\x7b".toList.contains c then return true
    let trimmed := trimGaps v
    if trimmed = "true".toList || trimmed = "false".toList then return true
    if (Literal.float? v).isSome then return true
    return (← date? v).isSome || (time? v).isSome

/-- Cuts a line further to the right until what is left can be a value. Gives the parts around the signs, and
whether all texts met on the way were strict numbers. -/
def settleValue (line : Chars) : Nat → Nat → List Chars → Bool → Except Unread (List Chars × Bool)
  | 0, _, _, _ => malformed
  | fuel + 1, count, parts, strict => do
    let v := parts.getLastD []
    if ← isWhole v then return (parts, strict)
    let next := Split.atMost ['='] (count + 1) line
    let w := next.getLastD []
    if w = v then malformed
    settleValue line fuel (count + 1) next (strict && isStrict w)

/-- The key and the value of a line, and whether the value may be a number. -/
def cutEntry (line : Chars) : Except Unread (Chars × Chars × Bool) := do
  let count := 1 + quotedCount ['='] false (quoteParts line)
  let parts := Split.atMost ['='] count line
  let v := parts.getLastD []
  let strict := isStrict v
  let v := if v.head?.any isDigit then v.filter (· ≠ '_') else v
  let (parts, strict) ← settleValue line (line.length + 2) count (parts.dropLast ++ [v]) strict
  return (trimGaps (Split.join ['='] parts.dropLast), trimGaps (parts.getLastD []), strict)

/-- Whether the inside of a list starts with a quote. -/
def isTextList (v : Chars) : Bool := (trimGaps (inner v)).head?.any Sweep.isQuote

/-- The parts of a list of texts around its commas, from the last one that starts with a quote on. -/
def lastText : List Chars → Except Unread Chars
  | [] => .ok []
  | [only] => .ok only
  | final :: before :: rest => do
    if Sweep.isQuote (← charAt final 0) then return final
    else lastText ((before ++ ',' :: final) :: rest)
termination_by parts => parts.length

/-- Whether a text in three quotes opens in a value and goes on in the next line. -/
def opensLong (v : Chars) : Except Unread Bool := do
  if v.length < 3 then return false
  let p ←
    if v.head? = some '[' && (trimGaps v).getLast? ≠ some ']' && isTextList v then
      lastText (Split.atChar ',' (trimGaps (v.drop 1))).reverse
    else pure v
  let q ← charAt p 0
  if !Sweep.isQuote q then return false
  if (← charAt p 1) ≠ q then return false
  if (← charAt p 2) ≠ q then return false
  return !(5 < p.length && (p.reverse.take 3).all (· = q))

/-- Joins the parts of a list of texts that were cut at commas inside quotes. -/
def joinTexts : Nat → List Chars → Except Unread (List Chars)
  | 0, _ => malformed
  | _, [] => .ok []
  | _, [last] => .ok [last]
  | fuel + 1, part :: next :: rest => do
    let text := trimGaps part
    if text.isEmpty then return part :: (← joinTexts fuel (next :: rest))
    let first ← charAt text 0
    let ending ← lastChar text
    let opensTriple ←
      if 2 < text.length && text[1]? = some first && text[2]? = some first then do
        let n := text.length
        pure ((← charAt text (n - 2)) ≠ first && (← charAt text (n - 3)) ≠ first)
      else pure false
    if ending ≠ first || opensTriple then
      match rest, joinedWhole (part ++ ',' :: next) with
      | [], false => .error (.failure (.pastEnd "list"))
      | _, _ => joinTexts fuel ((part ++ ',' :: next) :: rest)
    else return part :: (← joinTexts fuel (next :: rest))
where
  /-- Whether a joined text is closed by the quote that opens it. -/
  joinedWhole (part : Chars) : Bool :=
    let text := trimGaps part
    let first := text.head?
    let n := text.length
    let opensTriple := 2 < n && text[1]? = first && text[2]? = first && text[n - 2]? ≠ first
      && text[n - 3]? ≠ first
    text.getLast? = first && !opensTriple

/-- The tables of a list, each from its brace to the one that closes it. `start` is where the next one starts
and `depth` how many braces are open. -/
def tableParts (v : Array Char) : Nat → Nat → Nat → Int → Bool → List Chars
  | 0, _, _, _, _ => []
  | fuel + 1, start, i, depth, quoted =>
    if v.size ≤ i + 1 then []
    else
      let c := v.getD i ' '
      let quoted :=
        if !Sweep.isQuote c then quoted
        else if quoted && endsInEscape (v.extract 0 i).toList then quoted
        else !quoted
      let depth := if !quoted && c = '\x7b' then depth + 1 else depth
      if quoted || c ≠ '\x7d' then tableParts v fuel start (i + 1) depth quoted
      else if 1 < depth then tableParts v fuel start (i + 1) (depth - 1) quoted
      else
        let next := nextBrace v fuel (i + 2)
        (v.extract start (i + 1)).toList :: tableParts v fuel next (next + 1) depth quoted
where
  nextBrace (v : Array Char) : Nat → Nat → Nat
    | 0, i => i
    | fuel + 1, i => if i + 1 < v.size && v.getD i ' ' ≠ '\x7b' then nextBrace v fuel (i + 1) else i

/-- The parts of a list around the commas that no bracket encloses. -/
def listParts : Int → Chars → List Chars
  | _, [] => [[]]
  | depth, c :: rest =>
    if c = ',' && depth = 0 then [] :: listParts depth rest
    else
      let depth := if c = '[' then depth + 1 else if c = ']' then depth - 1 else depth
      match listParts depth rest with
      | first :: more => (c :: first) :: more
      | [] => [[c]]

/-- The parts of a list, as they are written. -/
def itemParts (v : Chars) : Except Unread (List Chars) :=
  let body := inner v
  let before := body.takeWhile (· ≠ '[')
  if body.contains '[' && (trimGaps before).isEmpty then .ok (listParts 0 body)
  else
    let parts :=
      if (trimGaps body).head? = some '\x7b' then
        tableParts v.toArray (2 * v.length + 2) 1 2 (if v[1]? = some '\x7b' then 1 else 0) false
      else Split.atChar ',' body
    if isTextList v then joinTexts (2 * v.length + 2) parts else .ok parts

/-- The entries of a table in one line, as they are written. -/
def entryParts : List Chars → Except Unread (List Chars)
  | [] => .ok []
  | part :: rest => do
    match Split.cut? ['='] part with
    | none => malformed
    | some (_, v) =>
      let v := trimGaps v
      let first ← charAt v 0
      let ending := v.getLastD ' '
      if (first = ending && Sweep.isQuote first) || "-0123456789".toList.contains first
          || v = "true".toList || v = "false".toList || (first = '[' && ending = ']')
          || (first = '\x7b' && ending = '\x7d') then
        return part :: (← entryParts rest)
      else
        match rest with
        | [] => malformed
        | next :: more => entryParts ((part ++ ',' :: next) :: more)
termination_by parts => parts.length

/-- The first line of a text that goes on over several, with the key that it belongs to. -/
structure Opened where
  key : String
  text : Chars
  /-- whether the line ends in a backslash, which joins the next one to it -/
  joins : Bool

/-- How deep values may be nested: a list counts as two levels, and a table in one line as three. -/
def deepest : Nat := 986

mutual

/-- The value of a text, and of what kind it is. Others may be nested in it to a depth. -/
def value : Nat → Nat → Chars → Bool → Except Unread (Value × Kind)
  | 0, _, _, _ => malformed
  | fuel + 1, depth, v, strict => do
    let word := String.ofList (v.map Char.toLower)
    match v with
    | [] => malformed
    | c :: _ =>
      if v = "true".toList then return (.bool true, .truth)
      else if v = "false".toList then return (.bool false, .truth)
      else if word = "true" || word = "false" then malformed
      else if Sweep.isQuote c then return (.ofText (← quotedText c v), .text)
      else if c = '[' then
        if depth < 2 then throw (.failure (.nestedTooDeep none))
        let parts ← itemParts (trimGaps v)
        return (.list (← items fuel (depth - 2) none (parts.map trimGaps)), .list)
      else if c = '\x7b' then
        if depth < 3 then throw (.failure (.nestedTooDeep none))
        return (← inlineTable fuel (depth - 3) v (.dict []), .table)
      else bare v strict

/-- The values of the parts of a list, all of one kind. Empty parts do not count. -/
def items : Nat → Nat → Option Kind → List Chars → Except Unread (List Value)
  | 0, _, _, _ => malformed
  | _, _, _, [] => .ok []
  | fuel + 1, depth, kind, part :: rest => do
    if part.isEmpty then items fuel depth kind rest
    else
      let (v, k) ← value fuel depth part true
      if kind.any (· ≠ k) then malformed
      return v :: (← items fuel depth (some k) rest)

/-- A table with the entries that stand between braces put in. -/
def inlineTable : Nat → Nat → Chars → Value → Except Unread Value
  | 0, _, _, _ => malformed
  | fuel + 1, depth, v, t => do
    let parts := Split.atChar ',' (inner v)
    let parts := match parts with
      | [only] => if (trimGaps only).isEmpty then [] else parts
      | parts => parts
    entries fuel depth (← entryParts parts) t

/-- A table with entries put in. One whose text goes on in the next line is the last. -/
def entries : Nat → Nat → List Chars → Value → Except Unread Value
  | 0, _, _, _ => malformed
  | _, _, [], t => .ok t
  | fuel + 1, depth, part :: rest, t => do
    match ← entry fuel depth part t with
    | (t, none) => entries fuel depth rest t
    | (t, some _) => return t

/-- A table with the entry of a line put in, or with the way to it made if its text goes on. -/
def entry : Nat → Nat → Chars → Value → Except Unread (Value × Option Opened)
  | 0, _, _, _ => malformed
  | fuel + 1, depth, line, t => do
    let (key, v, strict) ← cutEntry line
    let (through, name) ← keyPath key
    inside (fun t => do
      let opened ← opensLong v
      let a ← if opened then pure .null else Prod.fst <$> value fuel depth v strict
      match item? t name with
      | .error _ | .ok (some _) => malformed
      | .ok none =>
        if !opened then return (← withItem t name a, none)
        else if name.isEmpty then throw (.failure (.unboundName "value"))
        else
          let joins := endsInEscape v
          return (t, some ⟨name, if joins then v.dropLast else v ++ ['\n'], joins⟩)) through t

end

/-- How often values may be nested in a line. -/
def fuelFor (line : Chars) : Nat := 8 * line.length + 16

end ForeignBridge.Toml
