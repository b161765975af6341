import ForeignBridge.Failure
import ForeignBridge.Value.Equal

/-!
Scalar layouts: fixed widths, most significant byte first, signed numbers in two's complement and
floating-point numbers as their bit patterns.
-/

namespace ForeignBridge

/-- The last `width` base-256 digits of a number, the most significant first. -/
def bigEndian : Nat → Nat → Bytes
  | 0, _ => []
  | width + 1, n => UInt8.ofNat (n / 256 ^ width) :: bigEndian width n

/-- The number whose base-256 digits are given, the most significant first. -/
def ofBigEndian (bs : Bytes) : Nat := bs.foldl (fun n b => n * 256 + b.toNat) 0

/-- A number that wraps into the signed range of a width in bytes. -/
def signedOf (width n : Nat) : Int :=
  if 2 * n < 256 ^ width then n else (n : Int) - 256 ^ width

/-- The residue of a number that stands for it in a width in bytes. -/
def residueOf (width : Nat) (i : Int) : Nat := (i.emod (256 ^ width)).toNat

inductive Layout
  | i8 | i16 | i32 | i64 | u8 | u16 | u32 | u64 | f32 | f64
deriving DecidableEq, Repr

namespace Layout

def size : Layout → Nat
  | i8 | u8 => 1
  | i16 | u16 => 2
  | i32 | u32 | f32 => 4
  | i64 | u64 | f64 => 8

def signed : Layout → Bool
  | i8 | i16 | i32 | i64 => true
  | _ => false

def isFloat : Layout → Bool
  | f32 | f64 => true
  | _ => false

/-- The least whole number that an integer layout holds. -/
def least (l : Layout) : Int := if l.signed then -(2 ^ (8 * l.size - 1)) else 0

/-- The greatest whole number that an integer layout holds. -/
def greatest (l : Layout) : Int := if l.signed then 2 ^ (8 * l.size - 1) - 1 else 2 ^ (8 * l.size) - 1

def tooLargeText : String := "int too large to convert"

/-- What is said of a whole number outside an integer layout. -/
def rangeText : Layout → String
  | i8 => "byte format requires -128 <= number <= 127"
  | u8 => "ubyte format requires 0 <= number <= 255"
  | i16 => "'h' format requires -32768 <= number <= 32767"
  | u16 => "'H' format requires 0 <= number <= 65535"
  | i32 => "'i' format requires -2147483648 <= number <= 2147483647"
  | u32 => "'I' format requires 0 <= number <= 4294967295"
  | _ => tooLargeText

def packInt (l : Layout) (i : Int) : Except Failure Bytes :=
  if l.least ≤ i ∧ i ≤ l.greatest then .ok (bigEndian l.size (residueOf l.size i))
  else .error (.packing l.rangeText)

/-- The double that a number stands for in a floating-point layout. -/
def doubleOf (v : Value) : Except Failure Double :=
  match v with
  | .float x => .ok x
  | v =>
    match v.wholeNumber?.bind Double.ofInt? with
    | some x => .ok x
    | none => .error (.packing "required argument is not a float")

def pack (l : Layout) (v : Value) : Except Failure Bytes :=
  match l with
  | f32 => do
    let x ← doubleOf v
    match x.toSingle?, v with
    | some bits, _ => .ok (bigEndian 4 bits.toNat)
    | none, .float _ => .error .floatTooLarge
    | none, _ => .error (.packing tooLargeText)
  | f64 => do
    let x ← doubleOf v
    .ok (bigEndian 8 x.bits.toNat)
  | l =>
    match v.wholeNumber? with
    | some i => l.packInt i
    | none => .error (.packing "required argument is not an integer")

/-- The whole number that the bytes of an integer layout stand for. -/
def unpackInt (l : Layout) (bs : Bytes) : Int :=
  if l.signed then signedOf l.size (ofBigEndian bs) else ofBigEndian bs

def unpack (l : Layout) (bs : Bytes) : Value :=
  match l with
  | f32 => .float (Double.ofSingle (UInt32.ofNat (ofBigEndian bs)))
  | f64 => .float ⟨UInt64.ofNat (ofBigEndian bs)⟩
  | l => .int (l.unpackInt bs)

/-- The bytes of the only value there is to pack. -/
def packAll (l : Layout) (vs : List Value) : Except Failure Bytes :=
  match vs with
  | [v] => l.pack v
  | vs => .error (.packing s!"pack expected 1 items for packing (got {vs.length})")

end Layout

end ForeignBridge
