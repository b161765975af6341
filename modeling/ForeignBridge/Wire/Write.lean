import ForeignBridge.ErrorClass
import ForeignBridge.Wire.Check

/-!
Writing a value. What a write does is a script: the bytes it appends, in order, and between them the
handles it needs, a fresh reference to a native object or a new registration of an implementation; it
may end in a failure, after which nothing of it is undone. For shapes without handles a script is bytes.
-/

namespace ForeignBridge

inductive Piece
  | raw (data : Bytes)
  /-- borrow the object and append the pointer of a clone -/
  | object (value : Value)
  | callback (registry : Nat) (value : Value)

structure Script where
  pieces : List Piece
  failure : Option Failure

namespace Script

def empty : Script := ⟨[], none⟩

def raw (data : Bytes) : Script := ⟨[.raw data], none⟩

def fail (f : Failure) : Script := ⟨[], some f⟩

def ofExcept : Except Failure Bytes → Script
  | .ok data => raw data
  | .error f => fail f

/-- One script after another, which is not reached if the first fails. -/
def andThen (a b : Script) : Script :=
  match a.failure with
  | some _ => a
  | none => ⟨a.pieces ++ b.pieces, b.failure⟩

instance : Append Script := ⟨andThen⟩

def all : List Script → Script
  | [] => empty
  | s :: rest => s ++ all rest

/-- The bytes of a script, up to its first handle. -/
def leadingBytes (s : Script) : Bytes :=
  s.pieces.flatMap fun
    | .raw data => data
    | _ => []

end Script

def countBytes (n : Nat) : Script := .ofExcept (Layout.i32.packInt n)

def discriminantBytes (index : Nat) : Script := .ofExcept (Layout.i32.packInt (index + 1))

def Value.length? : Value → Option Nat
  | .text s | .halved s => some s.length
  | .bytes _ data => some data.length
  | .list items | .tuple items => some items.length
  | .dict entries => some entries.length
  | _ => none

/-- What iteration over a value that has a length gives. -/
def Value.elements : Value → List Value
  | .text s => s.toList.map fun c => .text c.toString
  | .halved s => s.toList.map .ofChar
  | .bytes _ data => data.map fun b => .int b.toNat
  | .list items | .tuple items => items
  | .dict entries => entries.map Prod.fst
  | _ => []

namespace Write

def encodedText (encoded : Bytes) : Script :=
  .ofExcept (checkLength encoded.length "String" *> .ok []) ++ countBytes encoded.length ++ .raw encoded

def text (v : Value) : Script :=
  match v with
  | .text s => encodedText (Utf8.encode s)
  | .halved s =>
    match Failure.ofEncoding s with
    | .error f => .fail f
    | .ok encoded => encodedText encoded
  | v => .fail (.noAttribute v.qualifiedTypeName "encode")

def bytes (v : Value) : Script :=
  match v.length? with
  | none => .fail (.mismatch (.noLength v.qualifiedTypeName))
  | some n =>
    countBytes n ++
      match v with
      | .bytes _ data => .raw data
      | v => .fail (.mismatch (.cannotAppend v.qualifiedTypeName))

/-- Seconds from the epoch, floored, and the nanoseconds past them. -/
def timestamp (v : Value) : Script :=
  match v with
  | .moment t =>
    match t.instant? with
    | some micros =>
      let s : Span := ⟨micros⟩
      .ofExcept (Layout.i64.packInt s.wholeSeconds)
        ++ .ofExcept (Layout.u32.packInt (s.microseconds * 1000))
    | none => .fail (.mismatch .naiveSubtraction)
  | v => .fail (.mismatch (.cannotSubtract v.qualifiedTypeName "datetime.datetime"))

def duration (v : Value) : Script :=
  match v with
  | .span s =>
    .ofExcept (Layout.u64.packInt s.wholeSeconds)
      ++ .ofExcept (Layout.u32.packInt (s.microseconds * 1000))
  | v => .fail (.noAttribute v.qualifiedTypeName "days")

def enumeration (e : EnumType) (v : Value) : Script :=
  let known :=
    match v with
    | .member enum name _ => if enum = e.name then e.index? name else none
    | _ => none
  match known, v.unhashable? with
  | some i, _ => discriminantBytes i
  | none, some name => .fail (.mismatch (.unhashable name))
  | none, none => .fail (.noKey v.shown)

def errors (kinds : List String) (v : Value) : Script :=
  match v with
  | .declared kind message =>
    match lastIndex? kind kinds with
    | some i => discriminantBytes i ++ text message
    | none => .fail (.noKey v.classText)
  | v => .fail (.noKey v.classText)

end Write

mutual

/-- What writing a value in a shape does. The value need not have been checked. -/
def Shape.write : Shape → Value → Script
  | .integer k, v => .ofExcept (k.layout.pack v)
  | .float32, v => .ofExcept (Layout.f32.pack v)
  | .float64, v => .ofExcept (Layout.f64.pack v)
  | .boolean, v => .ofExcept (Layout.i8.packInt (if v.truthy then 1 else 0))
  | .text, v => Write.text v
  | .bytes, v => Write.bytes v
  | .timestamp, v => Write.timestamp v
  | .duration, v => Write.duration v
  | .optional inner, v =>
    match v with
    | .null => .raw [0]
    | v => .raw [1] ++ inner.write v
  | .sequence inner, v =>
    match v.length? with
    | none => .fail (.mismatch (.noLength v.qualifiedTypeName))
    | some n => countBytes n ++ .all (v.elements.map inner.write)
  | .map key value, v =>
    match v.length? with
    | none => .fail (.mismatch (.noLength v.qualifiedTypeName))
    | some n =>
      countBytes n ++
        match v with
        | .dict entries => .all (entries.map fun e => key.write e.1 ++ value.write e.2)
        | v => .fail (.noAttribute v.qualifiedTypeName "items")
  | .record _ _ fields, v => fields.write v
  | .enumeration e, v => Write.enumeration e v
  | .union name variants, v =>
    match v with
    | .record cls _ _ =>
      match lastIndex? cls variants.classes with
      | some i => discriminantBytes i ++ variants.write i v
      | none => .fail (.mismatch (.notVariant cls name))
    | v => .fail (.mismatch (.notVariant v.typeName name))
  | .errors _ kinds, v => Write.errors kinds v
  | .object _, v =>
    match v with
    | .wrapper .. | .received .. => ⟨[.object v], none⟩
    | v => .fail (.noAttribute v.qualifiedTypeName "borrow")
  | .callback _ _ registry, v => ⟨[.callback registry v], none⟩

/-- What writing the attributes of a value does, in the order of the fields. -/
def Fields.write : Fields → Value → Script
  | .nil, _ => .empty
  | .cons name shape rest, v =>
    match v.attribute name with
    | .error f => .fail f
    | .ok a => shape.write a ++ rest.write v

def Variants.write : Variants → Nat → Value → Script
  | .nil, _, _ => .empty
  | .cons _ fields _, 0, v => fields.write v
  | .cons _ _ rest, i + 1, v => rest.write i v

end

end ForeignBridge
