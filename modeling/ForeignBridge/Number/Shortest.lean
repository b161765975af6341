import ForeignBridge.Number.Binary

/-!
Decimal text of a double: the fewest digits that read back to it, and of those the nearest. A double
is an interval of ratios; a number of digits is enough when one of the value's two neighbours on that
decimal grid lies inside.
-/

namespace ForeignBridge

/-- The ratios that round to one positive number, over the common denominator `den`. -/
structure RoundingInterval where
  low : Nat
  value : Nat
  high : Nat
  den : Nat
  closed : Bool

namespace RoundingInterval

def ofFinite (f : BinaryFormat) (mantissa : Nat) (exponent : Int) : RoundingInterval :=
  let up := 2 ^ exponent.toNat
  let below := if mantissa = 2 ^ f.fractionBits ∧ f.leastExponent < exponent then 1 else 2
  { low := (4 * mantissa - below) * up, value := 4 * mantissa * up, high := (4 * mantissa + 2) * up,
    den := 4 * 2 ^ (-exponent).toNat, closed := mantissa % 2 == 0 }

/-- Whether `digits * 10 ^ scale` lies inside. -/
def holds (r : RoundingInterval) (digits : Nat) (scale : Int) : Bool :=
  let x := digits * 10 ^ scale.toNat * r.den
  let shift := 10 ^ (-scale).toNat
  if r.closed then r.low * shift ≤ x && x ≤ r.high * shift else r.low * shift < x && x < r.high * shift

/-- The distance of `digits * 10 ^ scale` from the value, in a unit that depends on the scale only. -/
def distance (r : RoundingInterval) (digits : Nat) (scale : Int) : Nat :=
  ((digits * 10 ^ scale.toNat * r.den : Int) - r.value * 10 ^ (-scale).toNat).natAbs

/-- The neighbour inside the interval on the grid of a scale: the nearer of two, the even one of two that are
equally near. -/
def nearest? (r : RoundingInterval) (scale : Int) : Option Nat :=
  let down := r.value * 10 ^ (-scale).toNat / (r.den * 10 ^ scale.toNat)
  match r.holds down scale, r.holds (down + 1) scale with
  | true, true =>
    let (below, above) := (r.distance down scale, r.distance (down + 1) scale)
    some (if above < below || (above = below && down % 2 = 1) then down + 1 else down)
  | true, false => some down
  | false, true => some (down + 1)
  | false, false => none

def leading (r : RoundingInterval) : Int :=
  let atLeast (e : Int) : Bool := r.den * 10 ^ e.toNat ≤ r.value * 10 ^ (-e).toNat
  let guess : Int := ((r.value.log2 : Int) - r.den.log2) * 30103 / 100000 + 1
  if atLeast guess then guess
  else if atLeast (guess - 1) then guess - 1
  else if atLeast (guess - 2) then guess - 2
  else guess - 3

/-- The first of the scales below the leading digit whose grid meets the interval. -/
def firstMeeting (r : RoundingInterval) (top : Int) : Nat → Nat → Nat × Int
  | _, 0 => (r.value * 10 ^ (16 - top).toNat / (r.den * 10 ^ (top - 16).toNat), top - 16)
  | used, left + 1 =>
    match r.nearest? (top - used) with
    | some d => (d, top - used)
    | none => r.firstMeeting top (used + 1) left

end RoundingInterval

/-- Digits without trailing zeros, with the exponent of the leading one. -/
structure Decimal where
  digits : List Char
  leading : Int
deriving DecidableEq, Repr

namespace Decimal

def ofScaled (n : Nat) (scale : Int) : Decimal :=
  let all := Nat.toDigits 10 n
  let kept := (all.reverse.dropWhile (· == '0')).reverse
  ⟨if kept.isEmpty then ['0'] else kept, scale + (all.length - 1 : Nat)⟩

/-- The fewest digits that read back to a positive finite number. -/
def shortest (f : BinaryFormat) (mantissa : Nat) (exponent : Int) : Decimal :=
  let r := RoundingInterval.ofFinite f mantissa exponent
  let (n, scale) := r.firstMeeting r.leading 0 17
  ofScaled n scale

def exponentText (e : Int) : String :=
  let digits := toString e.natAbs
  (if e < 0 then "e-" else "e+") ++ (if digits.length < 2 then "0" ++ digits else digits)

/-- One digit, a point, the others, and the exponent. -/
def scientific (d : Decimal) : String :=
  match d.digits with
  | [] => "0"
  | c :: rest =>
    String.ofList (c :: if rest.isEmpty then [] else '.' :: rest) ++ exponentText d.leading

/-- Plain notation, with `.0` where no fraction is left. -/
def positional (d : Decimal) : String :=
  let point := d.leading + 1
  if point ≤ 0 then
    "0." ++ String.ofList (List.replicate (-point).toNat '0' ++ d.digits)
  else
    let whole := d.digits.take point.toNat
    let rest := d.digits.drop point.toNat
    let pad := List.replicate (point.toNat - whole.length) '0'
    String.ofList (whole ++ pad) ++ "." ++ (if rest.isEmpty then "0" else String.ofList rest)

end Decimal

namespace Double

/-- The text of a double: plain from `1e-4` up to below `1e16`, scientific elsewhere. -/
def text (x : Double) : String :=
  match x.unpack with
  | .nan .. => "nan"
  | .infinite s => if s then "-inf" else "inf"
  | .finite s m e =>
    let body :=
      if m = 0 then "0.0"
      else
        let d := Decimal.shortest .double m e
        if -4 ≤ d.leading ∧ d.leading < 16 then d.positional else d.scientific
    if s then "-" ++ body else body

end Double

end ForeignBridge
