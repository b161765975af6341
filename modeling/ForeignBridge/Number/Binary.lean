/-!
Binary floating-point numbers as bit patterns. A pattern unpacks to a sign, a whole mantissa and a
power of two, and a ratio of naturals rounds back to the nearest pattern, a tie going to the even
one. Everything is arithmetic on naturals, so that it can be reasoned about.
-/

namespace ForeignBridge

-- Wherever a power is written it is the core library's, also where another library has powers of its own.
@[default_instance 20000]
instance (priority := high) wholePower {α : Type} [NatPow α] : Pow α Nat := instPowNat

/-- An interchange format; `precision` counts the leading bit that is not stored. -/
structure BinaryFormat where
  precision : Nat
  exponentBits : Nat
deriving DecidableEq, Repr

namespace BinaryFormat

def double : BinaryFormat := ⟨53, 11⟩

def single : BinaryFormat := ⟨24, 8⟩

def topField (f : BinaryFormat) : Nat := 2 ^ f.exponentBits - 1

/-- The exponent of the last place of the smallest numbers. -/
def leastExponent (f : BinaryFormat) : Int := 3 - 2 ^ (f.exponentBits - 1) - f.precision

def fractionBits (f : BinaryFormat) : Nat := f.precision - 1

def signBit (f : BinaryFormat) : Nat := 2 ^ (f.fractionBits + f.exponentBits)

end BinaryFormat

/-- What a bit pattern stands for; a finite number is `± mantissa * 2 ^ exponent`. -/
inductive Unpacked
  | nan (negative : Bool) (payload : Nat)
  | infinite (negative : Bool)
  | finite (negative : Bool) (mantissa : Nat) (exponent : Int)
deriving DecidableEq, Repr

namespace BinaryFormat

def unpack (f : BinaryFormat) (bits : Nat) : Unpacked :=
  let negative := bits / f.signBit % 2 == 1
  let field := bits / 2 ^ f.fractionBits % 2 ^ f.exponentBits
  let fraction := bits % 2 ^ f.fractionBits
  if field = f.topField then
    if fraction = 0 then .infinite negative else .nan negative fraction
  else if field = 0 then .finite negative fraction f.leastExponent
  else .finite negative (2 ^ f.fractionBits + fraction) (f.leastExponent + (field - 1 : Nat))

/-- The nearest whole number to `n / d`, a tie going to the even one. -/
def roundHalfEven (n d : Nat) : Nat :=
  let q := n / d
  let r := 2 * (n % d)
  if r < d then q else if r = d then q + q % 2 else q + 1

/-- The pattern nearest to `n / d`, without its sign, or `none` past the largest finite number. -/
def roundRatio (f : BinaryFormat) (n d : Nat) : Option Nat :=
  if n = 0 then some 0 else
  let guess : Int := n.log2 - d.log2 - f.precision
  let scaled (e : Int) : Nat × Nat := (n * 2 ^ (-e).toNat, d * 2 ^ e.toNat)
  let wide := (scaled guess).1 / (scaled guess).2 ≥ 2 ^ f.precision
  let e := max (if wide then guess + 1 else guess) f.leastExponent
  let mantissa := roundHalfEven (scaled e).1 (scaled e).2
  let bits :=
    if mantissa < 2 ^ f.fractionBits then mantissa
    else (e - f.leastExponent).toNat * 2 ^ f.fractionBits + mantissa
  if bits < f.topField * 2 ^ f.fractionBits then some bits else none

def infinity (f : BinaryFormat) : Nat := f.topField * 2 ^ f.fractionBits

def withSign (f : BinaryFormat) (negative : Bool) (bits : Nat) : Nat :=
  if negative then f.signBit + bits else bits

/-- The pattern of a finite number, or `none` past the largest. -/
def roundFinite (f : BinaryFormat) (negative : Bool) (mantissa : Nat) (exponent : Int) :
    Option Nat :=
  (f.roundRatio (mantissa * 2 ^ exponent.toNat) (2 ^ (-exponent).toNat)).map (f.withSign negative)

end BinaryFormat

/-- A binary64 number, kept as its bits so that the payload of a NaN is not lost. -/
structure Double where
  bits : UInt64
deriving DecidableEq, Repr, Inhabited

namespace Double

def unpack (x : Double) : Unpacked := BinaryFormat.double.unpack x.bits.toNat

def ofNatBits (n : Nat) : Double := ⟨n.toUInt64⟩

def isNaN (x : Double) : Bool :=
  match x.unpack with
  | .nan .. => true
  | _ => false

def isFinite (x : Double) : Bool :=
  match x.unpack with
  | .finite .. => true
  | _ => false

def isZero (x : Double) : Bool :=
  match x.unpack with
  | .finite _ m _ => m == 0
  | _ => false

/-- The nearest number to a whole one, or `none` past the largest finite number. -/
def ofInt? (i : Int) : Option Double :=
  (BinaryFormat.double.roundFinite (i < 0) i.natAbs 0).map ofNatBits

/-- The number nearest to `± n / d`; past the largest it is infinite. -/
def ofRatio (negative : Bool) (n d : Nat) : Double :=
  let f := BinaryFormat.double
  ofNatBits (f.withSign negative ((f.roundRatio n d).getD f.infinity))

/-- The number nearest to `± digits * 10 ^ exponent`; past the largest it is infinite. Powers of ten that
leave the range in any case are not computed. -/
def ofDecimal (negative : Bool) (digits : Nat) (exponent : Int) : Double :=
  if digits = 0 ∨ digits.log2 + 3 * exponent < -1100 then ofRatio negative 0 1
  else if 310 < exponent then
    ofNatBits (BinaryFormat.double.withSign negative BinaryFormat.double.infinity)
  else ofRatio negative (digits * 10 ^ exponent.toNat) (10 ^ (-exponent).toNat)

def infinity (negative : Bool) : Double :=
  ofNatBits (BinaryFormat.double.withSign negative BinaryFormat.double.infinity)

def quietNaN : Double := ⟨0x7ff8000000000000⟩

/-- A finite number as a sign and a ratio of naturals. -/
def ratio? (x : Double) : Option (Bool × Nat × Nat) :=
  match x.unpack with
  | .finite s m e => some (s, m * 2 ^ e.toNat, 2 ^ (-e).toNat)
  | _ => none

/-- Equality of numbers: the two zeros are equal and a NaN equals nothing. -/
def numEq (x y : Double) : Bool :=
  if x.isNaN || y.isNaN then false
  else x.bits == y.bits || (x.isZero && y.isZero)

/-- Equality with a whole number, which is exact at any size. -/
def eqInt (x : Double) (i : Int) : Bool :=
  match x.ratio? with
  | some (s, n, d) => (if s then -(n : Int) else n) == i * d
  | none => false

/-- The whole number that a double is, if it is one. -/
def toInt? (x : Double) : Option Int :=
  match x.ratio? with
  | some (s, n, d) => if n % d = 0 then some (if s then -((n / d : Nat) : Int) else (n / d : Nat)) else none
  | none => none

/-- The binary32 pattern nearest to a double, or `none` if that would overflow. A NaN keeps its sign
and the top of its payload, and becomes quiet. -/
def toSingle? (x : Double) : Option UInt32 :=
  let f := BinaryFormat.single
  match x.unpack with
  | .nan s payload =>
    some (f.withSign s (f.infinity + (payload / 2 ^ 29 ||| 2 ^ 22))).toUInt32
  | .infinite s => some (f.withSign s f.infinity).toUInt32
  | .finite s m e => (f.roundFinite s m e).map Nat.toUInt32

/-- The double with the value of a binary32 pattern; a NaN becomes quiet. -/
def ofSingle (bits : UInt32) : Double :=
  let f := BinaryFormat.double
  match BinaryFormat.single.unpack bits.toNat with
  | .nan s payload => ofNatBits (f.withSign s (f.infinity + ((payload ||| 2 ^ 22) * 2 ^ 29)))
  | .infinite s => infinity s
  | .finite s m e => ofNatBits ((f.roundFinite s m e).getD f.infinity)

end Double

end ForeignBridge
