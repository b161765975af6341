import ForeignBridge.Document.Toml.Text
import ForeignBridge.Number.Literal
import ForeignBridge.Number.Sum
import ForeignBridge.Value.Basic

/-!
Numbers, dates and times of day in TOML. A number is looked over for zeros and underscores that may not stand
where they do before it is read. Of a date only the places of its numbers count.
-/

namespace ForeignBridge.Toml

def isDigit (c : Char) : Bool := '0' ≤ c && c ≤ '9'

/-- Whether some of the pairs of neighbours in a text are two characters. -/
def hasPair (a b : Char) (cs : Chars) : Bool := (Split.cut? [a, b] cs).isSome

/-- Whether the zeros and underscores of a number stand where they may. -/
def isStrict (s : Chars) : Bool :=
  let cs := trimGaps s
  let startsWithZero (allowed : Char → Bool) (cs : Chars) : Bool :=
    match cs with
    | '0' :: c :: _ => !allowed c
    | _ => false
  if cs.isEmpty || cs.head? = some '_' || cs.getLast? = some '_' || hasPair '_' '.' cs || hasPair '.' '_' cs then
    false
  else if cs.length = 1 then true
  else if startsWithZero (fun c => c = '.' || c = 'o' || c = 'b' || c = 'x') cs then false
  else
    let body := match cs with
      | '+' :: rest => rest
      | '-' :: rest => rest
      | cs => cs
    let signed := body.length ≠ cs.length
    if signed && startsWithZero (· = '.') body then false
    else !hasPair '_' '_' body

/-- The numbers at the start of a time of day: hour, minute, second, and a fraction of three to six digits. -/
def time? : Chars → Option (Nat × Nat × Nat × Nat)
  | a :: b :: ':' :: c :: d :: ':' :: e :: f :: rest =>
    if [a, b, c, d, e, f].all isDigit then
      let two (x y : Char) : Nat := Literal.natOfDigits [x, y]
      let fraction := match rest with | '.' :: more => (more.takeWhile isDigit).take 6 | _ => []
      let fraction := if fraction.length < 3 then [] else fraction
      some (two a b, two c d, two e f, Literal.natOfDigits fraction)
    else none
  | _ => none

/-- The whole number that a part of a text writes. -/
def part? (cs : Chars) (start stop : Nat) : Option Int :=
  (Literal.whole 10 ((cs.take stop).drop start)).toOption

def isOffset (cs : Chars) : Bool :=
  cs = ['Z'] || ((part? cs 1 3).isSome && (part? cs 4 6).isSome)

/-- A fraction of a second as microseconds; one of more than six digits is cut off after it was scaled. -/
def micros? (digits : Chars) : Except Unread (Option Int) :=
  match Literal.whole 10 digits with
  | .error _ => .ok none
  | .ok n =>
    if digits.length ≤ 6 then .ok (some (n * 10 ^ (6 - digits.length)))
    else
      match Double.ofInt? n with
      | none => .error (.failure .intTooLarge)
      | some x =>
        let scale := Double.ofDecimal false 1 (6 - (digits.length : Int))
        .ok (((x.mul scale).ratio?).map fun (negative, n, d) => if negative then -(n / d : Nat) else (n / d : Nat))

/-- The microseconds of a moment, which are none where its fraction or its offset is not read. -/
def fraction (cs : Chars) : Except Unread Int := do
  if cs[19]? ≠ some '.' then return 0
  let rest := cs.drop 20
  let (digits, offset) : Chars × Option Chars :=
    if cs.getLast? = some 'Z' || cs.getLast? = some 'z' then (rest.dropLast, some ['Z'])
    else
      match Split.cut? ['+'] rest with
      | some (before, after) => (before, some ('+' :: after))
      | none =>
        match Split.cut? ['-'] rest with
        | some (before, after) => (before, some ('-' :: after))
        | none => (rest, none)
  if !offset.all isOffset then return 0
  return (← micros? digits).getD 0

/-- The date, or the moment, that a text writes. -/
def date? (cs : Chars) : Except Unread (Option Value) := do
  let micros ← fraction cs
  if !(cs.drop 1).contains '-' then return none
  match part? cs 0 4, part? cs 5 7, part? cs 8 10 with
  | some y, some m, some d =>
    if cs.length = 10 then return (Date.checked y m d).toOption.map .date
    else
      match part? cs 11 13, part? cs 14 16, part? cs 17 19 with
      | some hour, some minute, some second =>
        if micros < 0 || 999999 < micros then return none
        else return (Moment.checked ⟨y, m, d, hour, minute, second, micros, none⟩).toOption.map .moment
      | _, _, _ => return none
  | _, _, _ => return none

/-- What a value is, as far as the items of a list must agree in it. -/
inductive Kind
  | truth
  | text
  | whole
  | float
  | date
  | time
  | list
  | table
deriving DecidableEq, Repr

def number (v : Chars) : Except Unread (Value × Kind) :=
  let (negative, body) := Literal.signed v
  let cs := body.filter (· ≠ '_')
  let ofFloat : Except Unread (Value × Kind) :=
    match Literal.float? cs with
    | some x =>
      let x := if !negative then x else if x.isZero then .ofRatio false 0 1 else x.mul (.ofRatio true 1 1)
      .ok (.float x, .float)
    | none => malformed
  let isFloat := cs.contains '.' || (!cs.contains 'x' && (cs.contains 'e' || cs.contains 'E'))
  let word := String.ofList (cs.map Char.toLower)
  if isFloat then
    if cs.getLast? = some '.' && cs.count '.' = 1 then malformed
    else if cs.head?.any isDigit then ofFloat
    else malformed
  else if word = "inf" || word = "nan" then ofFloat
  else
    match Literal.whole 0 cs with
    | .ok i => .ok (.int (if negative then -i else i), .whole)
    | .error _ => malformed

/-- The value of a text without quotes and brackets. A number must pass the test of its zeros. -/
def bare (v : Chars) (strict : Bool) : Except Unread (Value × Kind) := do
  match time? v with
  | some (h, m, s, _) => if h < 24 && m < 60 && s < 60 then return (.thing "datetime.time" 0, .time) else malformed
  | none =>
    match ← date? v with
    | some d => return (d, .date)
    | none => if strict then number v else malformed

end ForeignBridge.Toml
