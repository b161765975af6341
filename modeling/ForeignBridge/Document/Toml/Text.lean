import ForeignBridge.Document.Unread
import ForeignBridge.Text.Hex
import ForeignBridge.Text.Split
import ForeignBridge.Text.Surrogate

/-!
Texts in quotes, as TOML writes them: in one quote or in three, with escapes in double quotes.
-/

namespace ForeignBridge.Toml

abbrev Chars := List Char

def malformed {α : Type} : Except Unread α := .error .malformed

/-- A place behind the end of a text is asked for. -/
def pastText {α : Type} : Except Unread α := .error (.failure (.pastEnd "string"))

def charAt (cs : Chars) (i : Nat) : Except Unread Char := (cs[i]?).elim pastText .ok

def lastChar (cs : Chars) : Except Unread Char := cs.getLast?.elim pastText .ok

/-- A text without its first and its last character. -/
def inner (cs : Chars) : Chars := (cs.drop 1).dropLast

/-- Whether a text ends in an odd number of backslashes. -/
def endsInEscape (cs : Chars) : Bool := (cs.reverse.takeWhile (· = '\\')).length % 2 = 1

/-- Looks over the parts of a text between its quotes: nothing but quotes may follow the closing one. `run`
counts quotes in a row, as far as three of them close the text. -/
def checkClosed (triple : Bool) : Bool → Nat → List Chars → Except Unread Unit
  | _, _, [] => .ok ()
  | closed, run, part :: rest =>
    if part.isEmpty then
      if triple then checkClosed triple closed (run + 1) rest else checkClosed triple true run rest
    else if endsInEscape part then checkClosed triple closed run rest
    else if closed then malformed
    else if !triple || 1 < run then checkClosed triple true run rest
    else checkClosed triple closed 0 rest

/-- The characters that letters stand for behind a backslash. -/
def escapeMeanings : List (Char × Char) := [
  ('0', '\x00'), ('b', '\x08'), ('f', '\x0c'), ('n', '\n'), ('r', '\r'), ('t', '\t'), ('"', '"')]

/-- Looks over the parts of a text behind its backslashes. -/
def checkEscapes : Bool → List Chars → Except Unread Unit
  | _, [] => .ok ()
  | doubled, [] :: rest => checkEscapes (!doubled) rest
  | doubled, (c :: _) :: rest =>
    if (escapeMeanings.lookup c).isNone && c ≠ 'u' && c ≠ 'U' && !doubled then malformed
    else checkEscapes false rest

/-- The character with a code, if there is one. -/
def coded (code : Nat) : Except Unread Char :=
  match Surrogate.charOf? code with
  | some c => .ok c
  | none =>
    if code < 2 ^ 31 then malformed
    else .error (.failure (.overflow "Python int too large to convert to C int"))

/-- The digits of a code by number, in small letters; no half of a surrogate pair has a code of four. -/
def codeDigits (width : Nat) (part : Chars) : Except Unread Chars := do
  let digits := (part.take width).map Char.toLower
  if !digits.all fun c => (Hex.number? [c]).isSome then malformed
  let first ← charAt digits 0
  if first = 'd' then
    let second ← charAt digits 1
    if !('0' ≤ second && second ≤ '7') then malformed
  return digits

/-- A text with the escapes by number that start its parts resolved, but for those behind an escaped
backslash. -/
def resolveCodes (mark : Char) (width : Nat) : Bool → Chars → List Chars → Except Unread Chars
  | _, sofar, [] => .ok sofar
  | true, sofar, part :: rest =>
    resolveCodes mark width (endsInEscape part) (sofar ++ '\\' :: mark :: part) rest
  | false, sofar, part :: rest => do
    let digits ← codeDigits width part
    let c ← coded ((Hex.number? digits).getD 0)
    resolveCodes mark width false (sofar ++ c :: part.drop digits.length) rest

def withCodes (mark : Char) (width : Nat) (cs : Chars) : Except Unread Chars :=
  match Split.all ['\\', mark] cs with
  | first :: rest => resolveCodes mark width (endsInEscape first) first rest
  | [] => .ok []

def unescape : Chars → Except Unread Chars
  | '\\' :: c :: rest =>
    match escapeMeanings.lookup c with
    | some meaning => (meaning :: ·) <$> unescape rest
    | none =>
      if c = '\\' then ('\\' :: ·) <$> unescape rest
      else if c = 'u' || c = 'U' then ('\\' :: c :: ·) <$> unescape rest
      else malformed
  | c :: rest => (c :: ·) <$> unescape rest
  | [] => .ok []

def quotedText (quote : Char) (v : Chars) : Except Unread String := do
  let parts := Split.atChar quote (v.drop 1)
  let triple := match parts with | [] :: [] :: _ => true | _ => false
  checkClosed triple false 0 (bif triple then parts.drop 2 else parts)
  let v ←
    if quote = '"' then do
      checkEscapes false ((Split.atChar '\\' v).drop 1)
      unescape (← withCodes 'U' 8 (← withCodes 'u' 4 v))
    else pure v
  let long := match v with
    | _ :: b :: rest => b = quote && (rest.isEmpty || rest.head? = some b)
    | _ => false
  let v := if long then (v.drop 2).dropLast.dropLast else v
  return String.ofList (inner v)

end ForeignBridge.Toml
