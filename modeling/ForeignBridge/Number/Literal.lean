import ForeignBridge.Number.Binary
import ForeignBridge.Text.Blank

/-!
Numbers as texts write them, with blanks around them, a sign, single underscores between digits, and the
digits of any script. A whole number may say its base before its digits.
-/

namespace ForeignBridge

/-- The digits zero of all scripts. Each script has its ten digits in a row. -/
def zeroCodes : List Nat := [
    0x30, 0x660, 0x6f0, 0x7c0, 0x966, 0x9e6, 0xa66, 0xae6, 0xb66, 0xbe6, 0xc66, 0xce6, 0xd66,
    0xde6, 0xe50, 0xed0, 0xf20, 0x1040, 0x1090, 0x17e0, 0x1810, 0x1946, 0x19d0, 0x1a80, 0x1a90,
    0x1b50, 0x1bb0, 0x1c40, 0x1c50, 0xa620, 0xa8d0, 0xa900, 0xa9d0, 0xa9f0, 0xaa50, 0xabf0,
    0xff10, 0x104a0, 0x10d30, 0x11066, 0x110f0, 0x11136, 0x111d0, 0x112f0, 0x11450, 0x114d0,
    0x11650, 0x116c0, 0x11730, 0x118e0, 0x11950, 0x11c50, 0x11d50, 0x11da0, 0x16a60, 0x16ac0,
    0x16b50, 0x1d7ce, 0x1d7d8, 0x1d7e2, 0x1d7ec, 0x1d7f6, 0x1e140, 0x1e2f0, 0x1e950, 0x1fbf0]

/-- The value of a decimal digit of any script. -/
def decimalDigit? (c : Char) : Option Nat :=
  let n := c.toNat
  (zeroCodes.find? fun z => z ≤ n && n < z + 10).map (n - ·)

namespace Literal

/-- Why a text is not read as a whole number. -/
inductive Refused
  | malformed
  | tooLong (digits : Nat)
deriving DecidableEq, Repr

/-- The most decimal digits that a whole number may have. -/
def longest : Nat := 4300

/-- A text with plain digits and spaces for those of all scripts. -/
def plain (cs : List Char) : List Char :=
  cs.map fun c =>
    if c.toNat < 0x7f then c
    else if isGap c then ' '
    else match decimalDigit? c with | some d => Char.ofNat (48 + d) | none => c

def isSpace (c : Char) : Bool := c = ' ' || (0x09 ≤ c.toNat && c.toNat ≤ 0x0d)

def trim (cs : List Char) : List Char := ((cs.dropWhile isSpace).reverse.dropWhile isSpace).reverse

def signed : List Char → Bool × List Char
  | '-' :: rest => (true, rest)
  | '+' :: rest => (false, rest)
  | cs => (false, cs)

def withSign (negative : Bool) (n : Nat) : Int := if negative then -(n : Int) else n

/-- The value of a digit or a letter, as a digit. -/
def digit? (c : Char) : Option Nat :=
  if '0' ≤ c && c ≤ '9' then some (c.toNat - 48)
  else if 'a' ≤ c && c ≤ 'z' then some (c.toNat - 87)
  else if 'A' ≤ c && c ≤ 'Z' then some (c.toNat - 55)
  else none

def isDigitOf (base : Nat) (c : Char) : Bool := (digit? c).any (· < base)

/-- The base that a zero and a letter announce. -/
def announced? : List Char → Option (Nat × List Char)
  | '0' :: c :: rest =>
    if c = 'x' || c = 'X' then some (16, rest)
    else if c = 'o' || c = 'O' then some (8, rest)
    else if c = 'b' || c = 'B' then some (2, rest)
    else none
  | _ => none

/-- The digits behind what announces a base, which an underscore may set off. -/
def afterMark : List Char → List Char
  | '_' :: rest => rest
  | cs => cs

def hasDoubleUnderscore : List Char → Bool
  | '_' :: '_' :: _ => true
  | _ :: rest => hasDoubleUnderscore rest
  | [] => false

/-- The number that digits write in a base, with single underscores between them. -/
def digits (base : Nat) (cs : List Char) : Except Refused Nat :=
  let body := cs.takeWhile fun c => c = '_' || isDigitOf base c
  let plainDigits := body.filter (· ≠ '_')
  if body.head? = some '_' || body.getLast? = some '_' || hasDoubleUnderscore body then .error .malformed
  else if base = 10 && longest < plainDigits.length then .error (.tooLong plainDigits.length)
  else if body.isEmpty || body.length ≠ cs.length then .error .malformed
  else .ok (plainDigits.foldl (fun n c => n * base + (digit? c).getD 0) 0)

/-- The whole number that a text writes in a base; in base zero the text says its base, and what says none
has base ten and starts with no zero. -/
def whole (base : Nat) (s : List Char) : Except Refused Int :=
  let (negative, body) := signed (trim (plain s))
  (withSign negative) <$>
    match announced? body with
    | some (b, rest) => if base = 0 || base = b then digits b (afterMark rest) else digits base body
    | none =>
      if base ≠ 0 then digits base body
      else
        match digits 10 body with
        | .ok n => if n ≠ 0 && body.head? = some '0' then .error .malformed else .ok n
        | refused => refused

/-- A number without its underscores, each of which stands between two digits. -/
def withoutUnderscores? (cs : List Char) : Option (List Char) := go none cs
where
  isDigit (c : Option Char) : Bool := c.any fun c => '0' ≤ c && c ≤ '9'
  go (last : Option Char) : List Char → Option (List Char)
    | [] => some []
    | '_' :: rest => if isDigit last && isDigit rest.head? then go (some '_') rest else none
    | c :: rest => (go (some c) rest).map (c :: ·)

def natOfDigits (cs : List Char) : Nat := cs.foldl (fun n c => n * 10 + (c.toNat - 48)) 0

/-- The power of ten at the end of a number. -/
def power? : List Char → Option Int
  | [] => some 0
  | e :: rest =>
    let (negative, ds) := signed rest
    if (e = 'e' || e = 'E') && !ds.isEmpty && ds.all Char.isDigit then
      some (withSign negative (natOfDigits ds))
    else none

def float? (s : List Char) : Option Double := do
  let (negative, body) := signed (← withoutUnderscores? (trim (plain s)))
  let word := String.ofList (body.map Char.toLower)
  if word = "inf" || word = "infinity" then return .infinity negative
  if word = "nan" then return Double.quietNaN
  let whole := body.takeWhile Char.isDigit
  let rest := body.drop whole.length
  let fraction := match rest with | '.' :: more => more.takeWhile Char.isDigit | _ => []
  let rest := match rest with | '.' :: more => more.drop fraction.length | rest => rest
  if whole.isEmpty && fraction.isEmpty then none
  let power ← power? rest
  return .ofDecimal negative (natOfDigits (whole ++ fraction)) (power - fraction.length)

end Literal

end ForeignBridge
