import ForeignBridge.Scenario.ValueForm
import ForeignBridge.Wire.Codec

/-!
Shapes written as documents: a plain shape by its name, any other by a dictionary whose key names the
kind.
-/

namespace ForeignBridge.ShapeForm

/-- The shapes that have a name of their own in a scenario. -/
abbrev OwnShapes := String → Option Shape

def noOwnShapes : OwnShapes := fun _ => none

def scalar? : String → Option Shape
  | "Int8" => some (.integer .int8)
  | "Int16" => some (.integer .int16)
  | "Int32" => some (.integer .int32)
  | "Int64" => some (.integer .int64)
  | "UInt8" => some (.integer .uint8)
  | "UInt16" => some (.integer .uint16)
  | "UInt32" => some (.integer .uint32)
  | "UInt64" => some (.integer .uint64)
  | "Float32" => some .float32
  | "Float64" => some .float64
  | "Boolean" => some .boolean
  | "String" => some .text
  | "Bytes" => some .bytes
  | "Timestamp" => some .timestamp
  | "Duration" => some .duration
  | _ => none

/-- The shape that a document writes. The fuel bounds its depth. -/
def readWithin (n : Vocabulary) (own : OwnShapes) : Nat → Value → Shape
  | 0, _ => .boolean
  | fuel + 1, v =>
    let read := readWithin n own fuel
    let fieldsOf (f : Value) : Fields := .ofList (f.asPairs.map fun e => (e.1, read e.2))
    match v with
    | .text s => ((scalar? s).or (own s)).getD .boolean
    | v =>
      if let some t := v.field? "optional" then .optional (read t)
      else if let some t := v.field? "sequence" then .sequence (read t)
      else if let some (.list [k, a]) := v.field? "map" then .map (read k) (read a)
      else if let some r := v.field? "record" then
        .recordOf (r.textField "name") (fieldsOf (r.field "fields")) (r.textField "type_name")
      else if let some e := v.field? "enum" then
        let name := e.textField "name"
        let ms := (Value.lookup name n.enums).getD (ValueForm.members n (e.field "members"))
        .enumeration ⟨name, EnumType.distinct ms⟩
      else if let some u := v.field? "union" then
        .union (u.textField "name") (.ofList ((u.itemsField "variants").map fun a =>
          (a.textField "name", fieldsOf (a.field "fields"))))
      else if let some e := v.field? "error" then
        .errors (e.textField "name") ((e.itemsField "kinds").map Value.asText)
      else .boolean

def read (n : Vocabulary) (own : OwnShapes) (v : Value) : Shape := readWithin n own v.depth v

/-- The shape under a name, if one is written there. -/
def given? (n : Vocabulary) (own : OwnShapes) (v : Value) (name : String) : Option Shape :=
  (v.given? name).map (read n own)

def layout? : String → Option Layout
  | "I8" => some .i8
  | "I16" => some .i16
  | "I32" => some .i32
  | "I64" => some .i64
  | "U8" => some .u8
  | "U16" => some .u16
  | "U32" => some .u32
  | "U64" => some .u64
  | "F32" => some .f32
  | "F64" => some .f64
  | _ => none

end ForeignBridge.ShapeForm
