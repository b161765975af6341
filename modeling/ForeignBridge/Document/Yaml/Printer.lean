import ForeignBridge.Document.Yaml.Cursor
import ForeignBridge.Document.Yaml.Tag
import ForeignBridge.Text.Hex
import ForeignBridge.Value.Text

/-!
Printing documents as YAML: mappings in block form, with two blanks for a level. A text stands without
quotes where it reads back as itself, in single quotes where it can, and in double quotes, all of it
ASCII, where it must. Long texts go on over several lines.
-/

namespace ForeignBridge.Yaml

/-- The column after which a text goes on in the next line. -/
def bestWidth : Nat := 80

/-- The longest text that a key may be which stands on the line of its value. -/
def longestSimpleKey : Nat := 122

inductive Style
  | plain
  | single
  | double
deriving DecidableEq, Repr

def isGap (c : Char) : Bool := c = ' ' || c = '\t' || c = '\r' || c = '\x00' || isBreak c

/-- Whether a character stands for itself inside single quotes and without quotes. -/
def isOrdinary (c : Char) : Bool := c = '\n' || (' ' ≤ c && c ≤ '~')

/-- What a text looks like, as far as that decides how it may be written. -/
structure Analysis where
  empty : Bool
  multiline : Bool
  allowsPlain : Bool
  allowsSingle : Bool
deriving DecidableEq, Repr

/-- Whether two characters of the kinds given stand side by side. -/
def hasPair (first second : Char → Bool) : List Char → Bool
  | a :: b :: rest => (first a && second b) || hasPair first second (b :: rest)
  | _ => false

/-- Whether a text starts as something else than a text would. -/
def startsAsMark (cs : List Char) : Bool :=
  let followedByGap := match cs with | _ :: b :: _ => isGap b | _ => true
  match cs with
  | [] => false
  | c :: _ =>
    ['-', '-', '-'].isPrefixOf cs || ['.', '.', '.'].isPrefixOf cs
      || "#,[]\x7b\x7d&*!|>'\"%@`".toList.contains c
      || ((c = '?' || c = ':' || c = '-') && followedByGap)

/-- Whether a text holds something that would end it: a colon before a gap, or a hash after one. -/
def holdsMark (cs : List Char) : Bool :=
  hasPair (· = ':') isGap (cs.drop 1) || hasPair isGap (· = '#') cs
    || (cs.length > 1 && cs.getLast? = some ':')

def analyze (cs : List Char) : Analysis :=
  if cs.isEmpty then ⟨true, false, true, true⟩
  else
    let multiline := cs.any isBreak
    let special := !cs.all isOrdinary
    let edge := cs.head?.any (fun c => c = ' ' || isBreak c)
      || cs.getLast?.any (fun c => c = ' ' || isBreak c)
    let breakSpace := hasPair isBreak (· = ' ') cs
    let spaceBreak := hasPair (· = ' ') isBreak cs
    ⟨false, multiline,
      !(edge || breakSpace || spaceBreak || special || multiline || startsAsMark cs || holdsMark cs),
      !(breakSpace || spaceBreak || special)⟩

/-- The style of a text; a simple key stands on one line. -/
def styleOf (simpleKey : Bool) (s : String) : Style :=
  let a := analyze s.toList
  if Tag.ofPlain s = .text && a.allowsPlain && !(simpleKey && (a.empty || a.multiline)) then .plain
  else if a.allowsSingle && !(simpleKey && a.multiline) then .single
  else .double

/-- What has been written of a line, and where its end is. -/
structure Pen where
  written : List Char
  column : Nat

namespace Pen

def put (p : Pen) (cs : List Char) : Pen := ⟨cs.reverse ++ p.written, p.column + cs.length⟩

def wrap (p : Pen) (indent : Nat) : Pen :=
  ⟨List.replicate indent ' ' ++ '\n' :: p.written, indent⟩

end Pen

/-- Runs of characters of one kind: words, spaces and breaks. -/
def runs (cs : List Char) : List (List Char) :=
  let kind (c : Char) : Nat := if c = ' ' then 0 else if isBreak c then 1 else 2
  cs.splitBy fun a b => kind a = kind b

/-- Writes a text without quotes; a single space past the width becomes a line break. -/
def putPlain (split : Bool) (indent : Nat) (p : Pen) (cs : List Char) : Pen :=
  (runs cs).foldl
    (fun p run =>
      if run = [' '] && split && bestWidth < p.column then p.wrap indent else p.put run)
    p

def doubledQuotes (cs : List Char) : List Char :=
  cs.flatMap fun c => if c = '\'' then ['\'', '\''] else [c]

/-- Writes the inside of single quotes; `first` tells whether a run is the first one. -/
def putSingle (split : Bool) (indent : Nat) (p : Pen) (first : Bool) : List (List Char) → Pen
  | [] => p
  | run :: rest =>
    let p :=
      if run.all isBreak then
        let lines := List.replicate (run.length + 1) '\n'
        ⟨List.replicate indent ' ' ++ lines ++ p.written, indent⟩
      else if run = [' '] && split && bestWidth < p.column && !first && !rest.isEmpty then p.wrap indent
      else p.put (doubledQuotes run)
    putSingle split indent p false rest

def escapeLetters : List (Char × Char) := [
  ('\x00', '0'), ('\x07', 'a'), ('\x08', 'b'), ('\t', 't'), ('\n', 'n'), ('\x0b', 'v'),
  ('\x0c', 'f'), ('\r', 'r'), ('\x1b', 'e'), ('"', '"'), ('\\', '\\'), ('\x85', 'N'),
  ('\xa0', '_'), ('\u2028', 'L'), ('\u2029', 'P')]

/-- The escape of a character that cannot stand for itself in double quotes. -/
def escape? (c : Char) : Option (List Char) :=
  if c ≠ '"' && c ≠ '\\' && ' ' ≤ c && c ≤ '~' then none
  else
    match (escapeLetters.find? (·.1 == c)).map Prod.snd with
    | some letter => some ['\\', letter]
    | none =>
      let n := c.toNat
      let digits (width : Nat) : List Char := (hexPadded width n).toList.map Char.toUpper
      some <|
        if n ≤ 0xff then '\\' :: 'x' :: digits 2
        else if n ≤ 0xffff then '\\' :: 'u' :: digits 4
        else '\\' :: 'U' :: digits 8

/-- Ends a line inside double quotes. A space that starts the next line is escaped. -/
def breakDouble (indent : Nat) (p : Pen) (next : Option Char) : Pen :=
  let p := (p.put ['\\']).wrap indent
  if next = some ' ' then p.put ['\\'] else p

/-- Writes the inside of double quotes. `waiting` holds, reversed, the characters that are written with
the next escape or line break. -/
def putDouble (split : Bool) (indent : Nat) (p : Pen) (first : Bool) (waiting : List Char) :
    List Char → Pen
  | [] => p.put waiting.reverse
  | c :: rest =>
    let inside := !first && rest.length ≥ 1
    match escape? c with
    | some escape =>
      let p := (p.put waiting.reverse).put escape
      let p :=
        if inside && split && bestWidth + 1 < p.column then breakDouble indent p rest.head? else p
      putDouble split indent p false [] rest
    | none =>
      if inside && split && (c = ' ' || waiting.isEmpty)
          && bestWidth < p.column + waiting.length then
        putDouble split indent (breakDouble indent (p.put waiting.reverse) (some c)) false [c] rest
      else putDouble split indent p false (c :: waiting) rest

def putText (style : Style) (split : Bool) (indent : Nat) (p : Pen) (s : String) : Pen :=
  match style with
  | .plain => putPlain split indent p s.toList
  | .single => (putSingle split indent (p.put ['\'']) true (runs s.toList)).put ['\'']
  | .double => (putDouble split indent (p.put ['"']) true [] s.toList).put ['"']

/-- Whether a key stands on the line of its value. -/
def isSimpleKey (s : String) : Bool :=
  let a := analyze s.toList
  !a.empty && !a.multiline && s.length ≤ longestSimpleKey

def putScalar (indent : Nat) (p : Pen) : Value → Pen
  | .text s => putText (styleOf false s) true indent (p.put [' ']) s
  | .null => p.put " null".toList
  | .bool b => p.put (if b then " true".toList else " false".toList)
  | .int i => p.put (' ' :: (toString i).toList)
  | v => p.put (' ' :: v.shown.toList)

/-- Writes a key with all that stands before its value. -/
def putKey (indent : Nat) (p : Pen) (key : Value) : Pen :=
  let s := key.shown
  if isSimpleKey s then (putText (styleOf true s) false (indent + 2) p s).put [':']
  else
    let p := putText (styleOf false s) true (indent + 2) (p.put ['?', ' ']) s
    (p.wrap indent).put [':']

mutual

def putValue (indent : Nat) (p : Pen) : Value → Pen
  | .dict [] => p.put " \x7b\x7d".toList
  | .dict (e :: rest) => putEntries (indent + 2) (p.wrap (indent + 2)) (e :: rest)
  | v => putScalar (indent + 2) p v

/-- Writes the entries of a mapping; the pen stands where the first key goes. -/
def putEntries (indent : Nat) (p : Pen) : List (Value × Value) → Pen
  | [] => p
  | [(k, v)] => putValue indent (putKey indent p k) v
  | (k, v) :: rest => putEntries indent ((putValue indent (putKey indent p k) v).wrap indent) rest

end

def print (v : Value) : String :=
  let p : Pen := ⟨[], 0⟩
  let p :=
    match v with
    | .dict [] => p.put "\x7b\x7d".toList
    | .dict entries => putEntries 0 p entries
    | v => putScalar 0 p v
  String.ofList ('\n' :: p.written).reverse

end ForeignBridge.Yaml
