import ForeignBridge.Number.Shortest

/-!
Decimal text of a double with a given number of digits: so many behind the point, or so many in all. The
exact value is rounded, a half to the even neighbour.
-/

namespace ForeignBridge

namespace Double

/-- The digits of `num / den` in units of ten to the power `scale`, rounded. -/
def scaledDigits (num den : Nat) (scale : Int) : Nat :=
  BinaryFormat.roundHalfEven (num * 10 ^ (-scale).toNat) (den * 10 ^ scale.toNat)

/-- Digits with a point before the last `places` of them. -/
def withPoint (n places : Nat) (keepPoint : Bool) : String :=
  let digits := Nat.toDigits 10 n
  let digits := List.replicate (places + 1 - digits.length) '0' ++ digits
  let whole := digits.take (digits.length - places)
  let fraction := digits.drop (digits.length - places)
  String.ofList (whole ++ (if places = 0 && !keepPoint then [] else '.' :: fraction))

/-- The text of a ratio with `places` digits behind the point. -/
def fixedText (num den places : Nat) (keepPoint : Bool) : String :=
  withPoint (scaledDigits num den (-places)) places keepPoint

/-- The exponent of the leading digit of a positive ratio. -/
def leadingExponent (num den : Nat) : Int :=
  RoundingInterval.leading ⟨num, num, num, den, true⟩

/-- The leading digit's exponent and the digits of a ratio rounded to `count` digits. -/
def significant (num den count : Nat) : Int × Nat :=
  if num = 0 then (0, 0)
  else
    let e := leadingExponent num den
    let n := scaledDigits num den (e - (count - 1 : Nat))
    if n < 10 ^ count then (e, n) else (e + 1, n / 10)

/-- The text of a ratio in scientific notation, with `places` digits behind the point. -/
def scientificText (num den places : Nat) (keepPoint : Bool) : String :=
  let (e, n) := significant num den (places + 1)
  withPoint n places keepPoint ++ Decimal.exponentText e

/-- The text without the zeros at the end of its fraction, and without a point that ends it. -/
def withoutTrailingZeros (s : String) : String :=
  if s.toList.contains '.' then
    let cs := s.toList.reverse.dropWhile (· = '0')
    String.ofList (match cs with | '.' :: rest => rest | cs => cs).reverse
  else s

/-- The text of a ratio with `count` digits in all, in the shorter of the two notations. -/
def generalText (num den count : Nat) (keepZeros : Bool) : String :=
  let count := max count 1
  let (e, n) := significant num den count
  let trim (s : String) : String := if keepZeros then s else withoutTrailingZeros s
  if -4 ≤ e ∧ e < count then trim (fixedText num den ((count : Int) - 1 - e).toNat keepZeros)
  else trim (withPoint n (count - 1) keepZeros) ++ Decimal.exponentText e

end Double

end ForeignBridge
