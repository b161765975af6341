import ForeignBridge.Text.Hex

/-!
The kinds of YAML nodes. A node says its kind by its tag; a scalar without quotes and without a tag has the
kind that its text looks like.
-/

namespace ForeignBridge.Yaml

inductive Tag
  | null
  | truth
  | whole
  | float
  | moment
  | text
  | bytes
  | items
  /-- items that are pairs, each written as a mapping with one entry -/
  | pairs
  | names
  | entries
  /-- the key that brings in the entries of another mapping -/
  | merge
  /-- the key under which a mapping keeps the scalar that it stands for -/
  | scalarKey
  | unknown
deriving DecidableEq, Repr, Inhabited

namespace Tag

def commonStart : String := "tag:yaml.org,2002:"

def ofName (name : String) : Tag :=
  let named : List (String × Tag) := [("null", null), ("bool", truth), ("int", whole),
    ("float", float), ("timestamp", moment), ("str", text), ("binary", bytes), ("seq", items),
    ("omap", pairs), ("pairs", pairs), ("set", names), ("map", entries)]
  ((named.find? fun e => commonStart ++ e.1 = name).map Prod.snd).getD unknown

/-- Whether a value of this kind cannot be a key. -/
def isCollection (t : Tag) : Bool := t = items || t = pairs || t = names || t = entries

/-! What texts look like -/

def isDigit (c : Char) : Bool := '0' ≤ c && c ≤ '9'

def isDigitOrUnderscore (c : Char) : Bool := isDigit c || c = '_'

def isHexDigit (c : Char) : Bool := (Hex.number? [c]).isSome

def unsigned : List Char → List Char
  | '-' :: rest => rest
  | '+' :: rest => rest
  | cs => cs

def splitAt (sep : Char) : List Char → List (List Char)
  | [] => [[]]
  | c :: rest =>
    match splitAt sep rest with
    | first :: more => if c = sep then [] :: first :: more else (c :: first) :: more
    | [] => [[c]]

/-- A number below sixty, of one digit or two. -/
def isSixtieth : List Char → Bool
  | [a] => isDigit a
  | [a, b] => '0' ≤ a && a ≤ '5' && isDigit b
  | _ => false

/-- Digits and underscores that start with a digit which passes a test. -/
def isRun (first : Char → Bool) : List Char → Bool
  | c :: rest => first c && rest.all isDigitOrUnderscore
  | [] => false

def isNonzeroDigit (c : Char) : Bool := '1' ≤ c && c ≤ '9'

/-- Whether a text is a whole number: with base two, eight or sixteen announced by a zero, in base ten, or
in base sixty with colons. -/
def looksWhole (cs : List Char) : Bool :=
  let body := unsigned cs
  match body with
  | ['0'] => true
  | '0' :: 'b' :: rest => !rest.isEmpty && rest.all fun c => c = '0' || c = '1' || c = '_'
  | '0' :: 'x' :: rest => !rest.isEmpty && rest.all fun c => isHexDigit c || c = '_'
  | '0' :: rest => !rest.isEmpty && rest.all fun c => ('0' ≤ c && c ≤ '7') || c = '_'
  | body =>
    match splitAt ':' body with
    | first :: rest => isRun isNonzeroDigit first && rest.all isSixtieth
    | [] => false

/-- A power of ten with its sign, or nothing. -/
def isPower : List Char → Bool
  | [] => true
  | e :: sign :: digits =>
    (e = 'e' || e = 'E') && (sign = '-' || sign = '+') && !digits.isEmpty && digits.all isDigit
  | _ => false

/-- Whether a text is a float: it has a point. -/
def looksFloat (cs : List Char) : Bool :=
  let body := unsigned cs
  let whole := body.takeWhile (· ≠ '.')
  match body.drop whole.length with
  | [] => false
  | _ :: rest =>
    let after := rest.dropWhile isDigitOrUnderscore
    if whole.isEmpty then
      ["inf", "Inf", "INF"].contains (String.ofList rest)
        || (body.length = cs.length
          && (["nan", "NaN", "NAN"].contains (String.ofList rest)
            || (rest.head?.any isDigit && isPower after)))
    else
      match splitAt ':' whole with
      | [first] => isRun isDigit first && isPower after
      | first :: more => isRun isDigit first && more.all isSixtieth && after.isEmpty
      | [] => false

/-- The parts of a date, or of a date and a time of day. -/
structure WrittenMoment where
  year : List Char
  month : List Char
  day : List Char
  /-- hour, minute, second, and the digits of the fraction -/
  time : Option (List Char × List Char × List Char × List Char)
  /-- what follows the time: nothing, a `Z`, or a sign with hours and minutes -/
  zone : Option (Option (Bool × List Char × List Char))
deriving Repr

/-- Digits at the start of a text, between two counts of them, with what follows. -/
def digits? (least most : Nat) (cs : List Char) : Option (List Char × List Char) :=
  let ds := (cs.takeWhile isDigit).take most
  if least ≤ ds.length then some (ds, cs.drop ds.length) else none

def after? (c : Char) : List Char → Option (List Char)
  | d :: rest => if d = c then some rest else none
  | [] => none

def skipBlanks (cs : List Char) : List Char := cs.dropWhile fun c => c = ' ' || c = '\t'

def zone? (cs : List Char) : Option (Option (Option (Bool × List Char × List Char))) :=
  if cs.isEmpty then some none
  else
    match skipBlanks cs with
    | ['Z'] => some (some none)
    | sign :: rest =>
      if sign = '-' || sign = '+' then do
        let (hours, rest) ← digits? 1 2 rest
        let minutes ←
          match rest with
          | [] => some []
          | rest => do
            let (minutes, rest) ← digits? 2 2 (← after? ':' rest)
            if rest.isEmpty then some minutes else none
        some (some (some (sign = '-', hours, minutes)))
      else none
    | [] => none

/-- The parts of a text that is a date or a moment. One line break at its end does not count. -/
def moment? (cs : List Char) : Option WrittenMoment := do
  let cs := if cs.getLast? = some '\n' then cs.dropLast else cs
  let (year, rest) ← digits? 4 4 cs
  let (month, rest) ← digits? 1 2 (← after? '-' rest)
  let (day, rest) ← digits? 1 2 (← after? '-' rest)
  match rest with
  | [] => return ⟨year, month, day, none, none⟩
  | sep :: more =>
    let start ←
      if sep = 'T' || sep = 't' then some more
      else if sep = ' ' || sep = '\t' then some (skipBlanks more)
      else none
    let (hour, rest) ← digits? 1 2 start
    let (minute, rest) ← digits? 2 2 (← after? ':' rest)
    let (second, rest) ← digits? 2 2 (← after? ':' rest)
    let (fraction, rest) := match rest with
      | '.' :: more => (more.takeWhile isDigit, more.dropWhile isDigit)
      | rest => ([], rest)
    let zone ← zone? rest
    return ⟨year, month, day, some (hour, minute, second, fraction), zone⟩

/-- Whether a text is a moment, or a date with two digits for the month and for the day. -/
def looksMoment (cs : List Char) : Bool :=
  (moment? cs).any fun m => m.time.isSome || (m.month.length = 2 && m.day.length = 2)

def truthWords : List String :=
  ["yes", "Yes", "YES", "no", "No", "NO", "true", "True", "TRUE", "false", "False", "FALSE", "on", "On",
    "ON", "off", "Off", "OFF"]

def nullWords : List String := ["", "~", "null", "Null", "NULL"]

def ofPlain (s : String) : Tag :=
  let cs := s.toList
  if nullWords.contains s then null
  else if truthWords.contains s then truth
  else if s = "<<" then merge
  else if s = "=" then scalarKey
  else if s = "!" || s = "&" || s = "*" then unknown
  else if looksFloat cs then float
  else if looksWhole cs then whole
  else if looksMoment cs then moment
  else text

end Tag

end ForeignBridge.Yaml
