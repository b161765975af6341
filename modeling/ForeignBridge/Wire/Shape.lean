import ForeignBridge.Wire.Layout

/-!
Shapes: the types that cross the boundary, as data. A shape is built from scalars, texts, bytes and
times by options, sequences, maps, records, enums, unions and unions of errors; its two other leaves are
handles, which stand for a native object or for an implementation of a callback interface.
-/

namespace ForeignBridge

inductive IntKind
  | int8 | int16 | int32 | int64 | uint8 | uint16 | uint32 | uint64
deriving DecidableEq, Repr

namespace IntKind

def layout : IntKind → Layout
  | int8 => .i8
  | int16 => .i16
  | int32 => .i32
  | int64 => .i64
  | uint8 => .u8
  | uint16 => .u16
  | uint32 => .u32
  | uint64 => .u64

def name : IntKind → String
  | int8 => "Int8"
  | int16 => "Int16"
  | int32 => "Int32"
  | int64 => "Int64"
  | uint8 => "UInt8"
  | uint16 => "UInt16"
  | uint32 => "UInt32"
  | uint64 => "UInt64"

end IntKind

/-- An enum: its members in order of declaration, each with its value. -/
structure EnumType where
  name : String
  members : List (String × Value)
deriving Inhabited

mutual

inductive Shape
  | integer (kind : IntKind)
  | float32
  | float64
  | boolean
  | text
  | bytes
  | timestamp
  | duration
  | optional (inner : Shape)
  | sequence (inner : Shape)
  | map (key value : Shape)
  /-- a record class, the name that messages give the shape, and the fields in order -/
  | record (cls label : String) (fields : Fields)
  | enumeration (type : EnumType)
  | union (name : String) (variants : Variants)
  | errors (name : String) (kinds : List String)
  | object (cls : String)
  /-- a callback interface: its name, the methods an implementation has, and its registry -/
  | callback (name : String) (methods : List String) (registry : Nat)

inductive Fields
  | nil
  | cons (name : String) (shape : Shape) (rest : Fields)

/-- The classes of a union in order, each with its fields. -/
inductive Variants
  | nil
  | cons (cls : String) (fields : Fields) (rest : Variants)

end

instance : Inhabited Shape := ⟨.boolean⟩

namespace Fields

def ofList : List (String × Shape) → Fields
  | [] => nil
  | (name, shape) :: rest => cons name shape (ofList rest)

def toList : Fields → List (String × Shape)
  | nil => []
  | cons name shape rest => (name, shape) :: rest.toList

end Fields

namespace Variants

def ofList : List (String × Fields) → Variants
  | [] => nil
  | (cls, fields) :: rest => cons cls fields (ofList rest)

def toList : Variants → List (String × Fields)
  | nil => []
  | cons cls fields rest => (cls, fields) :: rest.toList

def classes (vs : Variants) : List String := vs.toList.map Prod.fst

def size (vs : Variants) : Nat := vs.toList.length

end Variants

def lastIndex? (name : String) (names : List String) : Option Nat :=
  (names.reverse.idxOf? name).map (names.length - 1 - ·)

namespace EnumType

/-- Keeps the first member of each value; a later one with the same value is another name for it. -/
def distinct (members : List (String × Value)) : List (String × Value) :=
  members.foldl (fun kept m => if kept.any (·.2.same m.2) then kept else kept ++ [m]) []

/-- The member that a name means: itself, or the first with the same value. -/
def resolve? (members : List (String × Value)) (name : String) : Option (String × Value) :=
  (Value.lookup name members).bind fun v => (distinct members).find? (·.2.same v)

def index? (e : EnumType) (name : String) : Option Nat := (e.members.map Prod.fst).idxOf? name

end EnumType

namespace Shape

def recordOf (cls : String) (fields : Fields) (label : String) : Shape :=
  record cls (if label.isEmpty then cls else label) fields

def typeName : Shape → String
  | integer k => k.name
  | float32 => "Float32"
  | float64 => "Float64"
  | boolean => "Boolean"
  | text => "String"
  | bytes => "Bytes"
  | timestamp => "Timestamp"
  | duration => "Duration"
  | optional inner => s!"Optional[{inner.typeName}]"
  | sequence inner => s!"Sequence[{inner.typeName}]"
  | map key value => s!"Map[{key.typeName}, {value.typeName}]"
  | record _ label _ => label
  | enumeration e => e.name
  | union name _ => name
  | errors name _ => name
  | object cls => cls
  | callback name _ _ => name

def converterName : Shape → String
  | integer _ => "IntegerConverter"
  | float32 | float64 => "FloatConverter"
  | boolean => "BooleanConverter"
  | text => "StringConverter"
  | bytes => "BytesConverter"
  | timestamp => "TimestampConverter"
  | duration => "DurationConverter"
  | optional _ => "OptionalConverter"
  | sequence _ => "SequenceConverter"
  | map _ _ => "MapConverter"
  | record .. => "RecordConverter"
  | enumeration _ => "EnumConverter"
  | union .. => "UnionConverter"
  | errors .. => "ErrorConverter"
  | object _ => "ObjectConverter"
  | callback .. => "CallbackInterfaceConverter"

def quoted (s : Shape) : String := s!"<{s.converterName} {s.typeName}>"

end Shape

mutual

/-- The fewest bytes that a value of a shape takes. -/
def Shape.minWidth : Shape → Nat
  | .integer k => k.layout.size
  | .float32 => 4
  | .float64 => 8
  | .boolean => 1
  | .text | .bytes => 4
  | .timestamp | .duration => 12
  | .optional _ => 1
  | .sequence _ | .map _ _ => 4
  | .record _ _ fields => fields.minWidth
  | .enumeration _ | .union _ _ | .errors _ _ => 4
  | .object _ | .callback _ _ _ => 8

def Fields.minWidth : Fields → Nat
  | .nil => 0
  | .cons _ shape rest => shape.minWidth + rest.minWidth

end

end ForeignBridge
