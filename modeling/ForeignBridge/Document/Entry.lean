import ForeignBridge.Document.Fault
import ForeignBridge.Number.Literal
import ForeignBridge.Text.Surrogate
import ForeignBridge.Text.Utf8
import ForeignBridge.Value.Equal
import ForeignBridge.Value.Text

/-!
Reading the entries of a document as settings. A whole number may be written as a truth value, as a float
without a fraction or as a text; a truth value as 0 or 1 or as one of a few words. A text may be written as
its bytes.
-/

namespace ForeignBridge.Entry

/-- The text that a value writes, if it is one or bytes in place of one; `undecodable` is why bytes that are
no text are refused. -/
def text? (undecodable : Refusal) : Value → Checked (Option String)
  | .text s => .ok (some s)
  | .halved _ => .refuse .notCharacters
  | .bytes .frozen data =>
    match Utf8.decode data with
    | .ok s => .ok (some s)
    | .error _ => .refuse undecodable
  | _ => .ok none

def text (v : Value) : Checked String :=
  (text? .notCharacters v).andThen fun s => s.elim (.refuse .notText) .ok

def optionalText : Value → Checked (Option String)
  | .null => .ok none
  | v => some <$> text v

/-! Whole numbers as texts -/

def isDecimal (c : Char) : Bool := '0' ≤ c && c ≤ '9'

/-- The digits of a number as plain digits write it: no zero stands before others. -/
def plainDigits? (cs : List Char) : Option (List Char) :=
  if cs.isEmpty || !cs.all isDecimal || (cs.head? = some '0' && cs.length ≠ 1) then none else some cs

/-- Drops the zeros that start a number, and the underscores between them, but for the last zero before
a point or at the end. A text that does not start as a number is refused. -/
def dropLeadingZeros? : List Char → Option (List Char)
  | '0' :: rest => go '0' rest
  | c :: rest => if isDecimal c then some (c :: rest) else none
  | [] => none
where
  go (last : Char) : List Char → Option (List Char)
    | [] => some [last]
    | c :: rest =>
      if c = '0' || c = '_' then go c rest
      else if isDecimal c then some (c :: rest)
      else if c = '.' then some (last :: c :: rest)
      else none

/-- Drops a point and what follows, if that is zeros only. -/
def dropZeroFraction (cs : List Char) : List Char :=
  let fraction := cs.dropWhile (· ≠ '.')
  if fraction.drop 1 |>.all (· = '0') then cs.takeWhile (· ≠ '.') else cs

/-- Drops underscores that stand between other characters, one at a time. -/
def dropUnderscores (cs : List Char) : List Char :=
  if cs.head? = some '_' || cs.getLast? = some '_' || Literal.hasDoubleUnderscore cs then cs
  else cs.filter (· ≠ '_')

def wholeOfText (s : String) : Checked Int :=
  let (negative, unsigned) := Literal.signed (trimBlanks s.toList)
  match (dropLeadingZeros? unsigned).bind fun cs => plainDigits? (dropUnderscores (dropZeroFraction cs)) with
  | none => .refuse .unreadableWhole
  | some digits =>
    if Literal.longest < digits.length then .refuse .oversizedWhole
    else .ok (Literal.withSign negative (Literal.natOfDigits digits))

/-- The whole number that a float is, if it is one of at most 64 bits. -/
def wholeOfFloat (x : Double) : Checked Int :=
  match x.ratio? with
  | none => .refuse .notFinite
  | some (negative, num, den) =>
    if num % den ≠ 0 then .refuse .fractionalWhole
    else if num / den < 2 ^ 63 then .ok (Literal.withSign negative (num / den))
    else .refuse .oversizedWhole

def whole (v : Value) : Checked Int :=
  match v with
  | .int i => .ok i
  | .bool b => .ok (if b then 1 else 0)
  | .float x => wholeOfFloat x
  | v => (text? .unreadableWhole v).andThen fun s => s.elim (.refuse .notWhole) wholeOfText

def atLeast (least : Int) (i : Int) : Checked Int := if i < least then .refuse .tooSmall else .ok i

def atMost (greatest : Int) (i : Int) : Checked Int :=
  if greatest < i then .refuse .tooLarge else .ok i

/-- A whole number between two bounds; the lower one is looked at first. -/
def wholeFrom (least : Int) (greatest : Option Int) (v : Value) : Checked Int :=
  (whole v).andThen fun i => (atLeast least i).andThen fun i =>
    match greatest with
    | none => .ok i
    | some g => atMost g i

def trueWords : List String := ["1", "on", "t", "true", "y", "yes"]

def falseWords : List String := ["0", "off", "f", "false", "n", "no"]

def truthOfWord (s : String) : Checked Bool :=
  if trueWords.contains s.toLower then .ok true
  else if falseWords.contains s.toLower then .ok false
  else .refuse .unreadableTruth

def truthOfNumber (i : Int) : Checked Bool :=
  if i = 0 then .ok false else if i = 1 then .ok true else .refuse .unreadableTruth

def truth (v : Value) : Checked Bool :=
  match v with
  | .bool b => .ok b
  | .int i => if -2 ^ 63 ≤ i && i < 2 ^ 63 then truthOfNumber i else .refuse .notTruth
  | .float x =>
    match wholeOfFloat x with
    | .ok i => truthOfNumber i
    | .faults _ => .refuse .notTruth
  | v => (text? .unreadableTruth v).andThen fun s => s.elim (.refuse .notTruth) truthOfWord

/-- How a key is named in the path of a fault: a truth value as 1 or 0, what is no text as it is quoted. Half of
a surrogate pair is shown as the three bytes that it would be, each replaced. -/
def keyName : Value → String
  | .text s | .halved s => String.ofList (s.toList.flatMap fun c =>
      if Surrogate.occursIn [c] then List.replicate 3 Utf8.replacement else [c])
  | .bool b => if b then "1" else "0"
  | k => k.quoted

/-- A mapping of texts to what a reader makes of their values, in order. A key tells by its characters whether
there are halves in it. -/
def mapping {α : Type} (read : Value → Checked α) : Value → Checked (List (String × α))
  | .dict entries =>
    (Checked.all pair entries).map fun read => read.foldl (fun sofar e => Value.put e.1 e.2 sofar) []
  | _ => .refuse .notMapping
where
  key : Value → Value
    | .text s => .ofText s
    | k => k
  pair (e : Value × Value) : Checked (String × α) :=
    Prod.mk <$> ((text (key e.1)).under "[key]").under (keyName e.1) <*> (read e.2).under (keyName e.1)

def optional {α : Type} (doc : Value) (name : String) (absent : α) (read : Value → Checked α) :
    Checked α :=
  match doc.field? name with
  | none => .ok absent
  | some v => (read v).under name

def required {α : Type} (doc : Value) (name : String) (read : Value → Checked α) : Checked α :=
  match doc.field? name with
  | none => (Checked.refuse .missing).under name
  | some v => (read v).under name

end ForeignBridge.Entry
