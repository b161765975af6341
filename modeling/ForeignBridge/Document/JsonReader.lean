import ForeignBridge.Document.Unread
import ForeignBridge.Number.Literal
import ForeignBridge.Text.Hex
import ForeignBridge.Text.Surrogate

/-!
Reading JSON. A document is a value built from null, truth values, numbers, texts, lists and
dictionaries; a number with a fraction or an exponent is a float, and a key given twice keeps its place
and takes the later value. A whole number that has too many digits is a failure of its own, and so is a value that
is nested too deep.
-/

namespace ForeignBridge.Json

def isBlank (c : Char) : Bool := c = ' ' ∨ c = '\t' ∨ c = '\n' ∨ c = '\r'

def skipBlanks (cs : List Char) : List Char := cs.dropWhile isBlank

def digitsOf (cs : List Char) : List Char × List Char := cs.span Char.isDigit

def malformed {α : Type} : Except Unread α := .error .malformed

/-- The value that a word stands for, with the rest of the text after it. -/
def word (w : List Char) (v : Value) (cs : List Char) : Except Unread (Value × List Char) :=
  if w.isPrefixOf cs then .ok (v, cs.drop w.length) else malformed

/-- The digits of a fraction, which needs one at least. -/
def fraction (cs : List Char) : Option (List Char × List Char) :=
  match cs with
  | '.' :: rest =>
    let (ds, rest) := digitsOf rest
    if ds.isEmpty then none else some (ds, rest)
  | _ => none

/-- The value of an exponent, which needs a digit at least. -/
def exponent (cs : List Char) : Option (Int × List Char) :=
  match cs with
  | c :: rest =>
    if c = 'e' ∨ c = 'E' then
      let (negative, rest) :=
        match rest with
        | '-' :: r => (true, r)
        | '+' :: r => (false, r)
        | r => (false, r)
      let (ds, rest) := digitsOf rest
      if ds.isEmpty then none
      else some (Literal.withSign negative (Literal.natOfDigits ds), rest)
    else none
  | [] => none

def unsigned (negative : Bool) (cs : List Char) : Except Unread (Value × List Char) :=
  let (whole, rest) :=
    match cs with
    | '0' :: r => (['0'], r)
    | cs => digitsOf cs
  let (fractionDigits, rest, hasFraction) :=
    match fraction rest with
    | some (ds, r) => (ds, r, true)
    | none => ([], rest, false)
  let (power, rest, hasExponent) :=
    match exponent rest with
    | some (e, r) => (e, r, true)
    | none => (0, rest, false)
  if whole.isEmpty then malformed
  else if hasFraction || hasExponent then
    let digits := Literal.natOfDigits (whole ++ fractionDigits)
    .ok (.float (Double.ofDecimal negative digits (power - fractionDigits.length)), rest)
  else if Literal.longest < whole.length then .error (.ofUnreadable (.tooManyDigits whole.length))
  else .ok (.int (Literal.withSign negative (Literal.natOfDigits whole)), rest)

/-- The code that four digits write, with the rest of the text after them. -/
def fourDigits? (cs : List Char) : Option (Nat × List Char) :=
  let four := cs.take 4
  if four.length = 4 then (Hex.number? four).map fun n => (n, cs.drop 4) else none

/-- The code of a pair of surrogate halves, of which the first was read. -/
def pairCode? (high : Nat) (cs : List Char) : Option (Nat × List Char) :=
  match cs with
  | '\\' :: 'u' :: rest => do
    let (low, rest) ← fourDigits? rest
    if 0xd800 ≤ high && high < 0xdc00 && 0xdc00 ≤ low && low < 0xe000 then
      some (0x10000 + (high - 0xd800) * 0x400 + (low - 0xdc00), rest)
    else none
  | _ => none

/-- The character of an escape by number, and whether it stands for a half; the two halves of a surrogate
pair are one character. -/
def unicodeEscape? (cs : List Char) : Option (Char × Bool × List Char) := do
  let (n, rest) ← fourDigits? cs
  let (n, rest) := (pairCode? n rest).getD (n, rest)
  return (← Surrogate.charOf? n, Surrogate.isHalf n, rest)

/-- The characters that letters stand for behind a backslash. -/
def escapeMeanings : List (Char × Char) := [
  ('"', '"'), ('\\', '\\'), ('/', '/'), ('b', '\x08'), ('f', '\x0c'), ('n', '\n'), ('r', '\r'), ('t', '\t')]

/-- The text up to its closing quote, after the characters read before, with whether a half is among them. -/
def stringBody : Nat → Bool → List Char → List Char → Except Unread (Value × List Char)
  | 0, _, _, _ => malformed
  | fuel + 1, halves, sofar, cs =>
    match cs with
    | [] => malformed
    | '"' :: rest =>
      let s := String.ofList sofar.reverse
      .ok (if halves then .halved s else .text s, rest)
    | '\\' :: 'u' :: rest =>
      match unicodeEscape? rest with
      | some (u, half, rest) => stringBody fuel (halves || half) (u :: sofar) rest
      | none => malformed
    | '\\' :: c :: rest =>
      match escapeMeanings.lookup c with
      | some meaning => stringBody fuel halves (meaning :: sofar) rest
      | none => malformed
    | c :: rest => if c.toNat < 0x20 then malformed else stringBody fuel halves (c :: sofar) rest

def string (cs : List Char) : Except Unread (Value × List Char) := stringBody (cs.length + 1) false [] cs

def deepest : Nat := 989

mutual

/-- One value, inside which others may be nested to a depth; the fuel bounds the depth and the length together. -/
def value : Nat → Nat → List Char → Except Unread (Value × List Char)
  | 0, _, _ => malformed
  | fuel + 1, depth, cs =>
    match cs with
    | '"' :: rest => string rest
    | '[' :: rest =>
      if depth = 0 then .error (.failure (.nestedTooDeep (some "array")))
      else
        match skipBlanks rest with
        | ']' :: rest => .ok (.list [], rest)
        | rest => items fuel (depth - 1) [] rest
    | '\x7b' :: rest =>
      if depth = 0 then .error (.failure (.nestedTooDeep (some "object")))
      else
        match skipBlanks rest with
        | '\x7d' :: rest => .ok (.dict [], rest)
        | rest => members fuel (depth - 1) [] rest
    | 't' :: _ => word "true".toList (.bool true) cs
    | 'f' :: _ => word "false".toList (.bool false) cs
    | 'n' :: _ => word "null".toList .null cs
    | 'N' :: _ => word "NaN".toList (.float Double.quietNaN) cs
    | 'I' :: _ => word "Infinity".toList (.float (Double.infinity false)) cs
    | '-' :: 'I' :: _ => word "-Infinity".toList (.float (Double.infinity true)) cs
    | '-' :: rest => unsigned true rest
    | cs => unsigned false cs

/-- The items of a list up to its end, after those read before. -/
def items : Nat → Nat → List Value → List Char → Except Unread (Value × List Char)
  | 0, _, _, _ => malformed
  | fuel + 1, depth, sofar, cs => do
    let (v, rest) ← value fuel depth cs
    match skipBlanks rest with
    | ',' :: rest => items fuel depth (v :: sofar) (skipBlanks rest)
    | ']' :: rest => return (.list (v :: sofar).reverse, rest)
    | _ => malformed

/-- The members of a dictionary up to its end, after those read before. -/
def members : Nat → Nat → List (String × Value) → List Char → Except Unread (Value × List Char)
  | 0, _, _, _ => malformed
  | fuel + 1, depth, sofar, cs => do
    let (key, rest) ← match cs with
      | '"' :: rest => string rest
      | _ => malformed
    let (v, rest) ← match skipBlanks rest with
      | ':' :: rest => value fuel depth (skipBlanks rest)
      | _ => malformed
    let sofar := Value.put key.asText v sofar
    match skipBlanks rest with
    | ',' :: rest => members fuel depth sofar (skipBlanks rest)
    | '\x7d' :: rest => return (.dict (sofar.map fun e => (.text e.1, e.2)), rest)
    | _ => malformed

end

def read (s : String) : Except Unread Value := do
  let cs := skipBlanks s.toList
  let (v, rest) ← value (2 * cs.length + 2) deepest cs
  if (skipBlanks rest).isEmpty then return v else malformed

end ForeignBridge.Json
