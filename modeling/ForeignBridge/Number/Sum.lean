import ForeignBridge.Number.Binary

/-!
Sums and products of doubles: the exact result, rounded once.
-/

namespace ForeignBridge.Double

/-- A finite number as a ratio with its sign. -/
def signedRatio? (x : Double) : Option (Int × Nat) :=
  x.ratio?.map fun (negative, n, d) => (if negative then -(n : Int) else n, d)

def isNegative (x : Double) : Bool := x.bits.toNat / BinaryFormat.double.signBit % 2 = 1

/-- The same NaN, as one that raises no alarm. -/
def quieted (x : Double) : Double := ⟨x.bits ||| quietNaN.bits⟩

/-- The sum of two numbers. A sum of zero is negative only if both are; a NaN stays what it is, and opposite
infinities have the negative NaN for their sum. -/
def add (x y : Double) : Double :=
  match x.signedRatio?, y.signedRatio? with
  | some (a, b), some (c, d) =>
    let n := a * d + c * b
    if n = 0 then ofRatio (x.isNegative && y.isNegative) 0 1 else ofRatio (n < 0) n.natAbs (b * d)
  | _, _ =>
    if x.isNaN then x.quieted
    else if y.isNaN then y.quieted
    else if x.isFinite then y
    else if y.isFinite || x.bits = y.bits then x
    else ⟨quietNaN.bits ||| 0x8000000000000000⟩

def mul (x y : Double) : Double :=
  let negative := x.isNegative != y.isNegative
  match x.ratio?, y.ratio? with
  | some (_, a, b), some (_, c, d) => ofRatio negative (a * c) (b * d)
  | _, _ => if x.isNaN || y.isNaN || x.isZero || y.isZero then quietNaN else infinity negative

end ForeignBridge.Double
