import ForeignBridge.Value.Method
import ForeignBridge.Wire.Shape

/-!
Checking a value against a shape before any byte of it is written. What passes has the right types
throughout, numbers in range, and lengths that their counts can hold.
-/

namespace ForeignBridge

/-- The greatest length that a signed 32-bit count holds. -/
def maxLength : Nat := 2 ^ 31 - 1

def checkLength (length : Int) (typeName : String) : Except Failure Unit :=
  if length ≤ maxLength then .ok () else .error (.unsendable (.tooLong typeName length.toNat))

def Value.attribute (v : Value) (name : String) : Except Failure Value :=
  match v.attribute? name with
  | some a => .ok a
  | none => .error (.noAttribute v.qualifiedTypeName name)

/-- Whether a value is an instance of a record class or of one derived from it. -/
def Value.isRecordOf (v : Value) (cls : String) : Bool :=
  match v with
  | .record c bases _ => c == cls || bases.contains cls
  | _ => false

def mistyped (typeName what : String) (v : Value) : Failure :=
  .mismatch (.expected typeName what v.typeName)

namespace Check

def integer (k : IntKind) (v : Value) : Except Failure Unit :=
  match v with
  | .int i =>
    if k.layout.least ≤ i ∧ i ≤ k.layout.greatest then .ok ()
    else .error (.unsendable (.outOfBounds i k.name k.layout.least k.layout.greatest))
  | v => .error (mistyped k.name "an int" v)

/-- A binary32 number is tried out if it is finite. An int is made a double first. -/
def float32 (v : Value) : Except Failure Unit :=
  match v with
  | .float x =>
    if x.isFinite ∧ x.toSingle? = none then .error (.unsendable (.outOfRange v.shown "Float32"))
    else .ok ()
  | .int i =>
    match Double.ofInt? i with
    | none => .error .intTooLarge
    | some x =>
      if x.toSingle? = none then .error (.packing Layout.tooLargeText) else .ok ()
  | v => .error (mistyped "Float32" "a float" v)

def float64 (v : Value) : Except Failure Unit :=
  match v with
  | .float _ | .int _ => .ok ()
  | v => .error (mistyped "Float64" "a float" v)

def boolean (v : Value) : Except Failure Unit :=
  match v with
  | .bool _ => .ok ()
  | v => .error (mistyped "Boolean" "a bool" v)

def text (v : Value) : Except Failure Unit :=
  match v with
  | .text s | .halved s => checkLength s.length "String"
  | v => .error (mistyped "String" "a str" v)

def bytes (v : Value) : Except Failure Unit :=
  match v with
  | .bytes _ data => checkLength data.length "Bytes"
  | v => .error (mistyped "Bytes" "a bytes-like object" v)

def timestamp (v : Value) : Except Failure Unit :=
  match v with
  | .moment t => if t.offset.isSome then .ok () else .error (.unsendable .naiveTimestamp)
  | v => .error (mistyped "Timestamp" "a datetime" v)

def duration (v : Value) : Except Failure Unit :=
  match v with
  | .span s => if s.micros < 0 then .error (.unsendable .negativeDuration) else .ok ()
  | v => .error (mistyped "Duration" "a timedelta" v)

def enumeration (e : EnumType) (v : Value) : Except Failure Unit :=
  let refuse := do
    Failure.ofShowing v
    throw (.mismatch (.expected e.name s!"a {e.name} member" v.quoted))
  match v with
  | .member enum _ _ => if enum = e.name then .ok () else refuse
  | _ => refuse

def errors (name : String) (kinds : List String) (v : Value) : Except Failure Unit :=
  match v with
  | .declared kind message =>
    if kinds.contains kind then text message else .error (.mismatch (.notKind kind name))
  | v => .error (.mismatch (.notKind v.typeName name))

def object (cls : String) (v : Value) : Except Failure Unit :=
  let refuse := Except.error (mistyped cls s!"a {cls} instance" v)
  match v with
  | .wrapper c _ | .received c _ => if c = cls then .ok () else refuse
  | _ => refuse

def callback (name : String) (methods : List String) (v : Value) : Except Failure Unit :=
  let missing := methods.filter fun m => !v.methods.contains m
  if missing.isEmpty then .ok () else .error (.mismatch (.missingMethods v.typeName name missing))

end Check

mutual

def Shape.check : Shape → Value → Except Failure Unit
  | .integer k, v => Check.integer k v
  | .float32, v => Check.float32 v
  | .float64, v => Check.float64 v
  | .boolean, v => Check.boolean v
  | .text, v => Check.text v
  | .bytes, v => Check.bytes v
  | .timestamp, v => Check.timestamp v
  | .duration, v => Check.duration v
  | .optional inner, v =>
    match v with
    | .null => .ok ()
    | v => inner.check v
  | .sequence inner, v =>
    match v with
    | .list items | .tuple items => do
      checkLength items.length (Shape.sequence inner).typeName
      items.forM inner.check
    | v => .error (mistyped (Shape.sequence inner).typeName "a list or tuple" v)
  | .map key value, v =>
    match v with
    | .dict entries => do
      checkLength entries.length (Shape.map key value).typeName
      entries.forM fun e => do
        key.check e.1
        value.check e.2
    | v => .error (mistyped (Shape.map key value).typeName "a mapping" v)
  | .record cls label fields, v =>
    if v.isRecordOf cls then fields.check v
    else .error (mistyped label cls v)
  | .enumeration e, v => Check.enumeration e v
  | .union name variants, v =>
    match v with
    | .record cls _ _ =>
      match lastIndex? cls variants.classes with
      | some i => variants.check i v
      | none => .error (.mismatch (.notVariant cls name))
    | v => .error (.mismatch (.notVariant v.typeName name))
  | .errors name kinds, v => Check.errors name kinds v
  | .object cls, v => Check.object cls v
  | .callback name methods _, v => Check.callback name methods v

/-- Checks the attributes of a value against the fields, in order. -/
def Fields.check : Fields → Value → Except Failure Unit
  | .nil, _ => .ok ()
  | .cons name shape rest, v => do
    let a ← v.attribute name
    shape.check a
    rest.check v

/-- Checks a value against the variant at a position. -/
def Variants.check : Variants → Nat → Value → Except Failure Unit
  | .nil, _, _ => .ok ()
  | .cons _ fields _, 0, v => fields.check v
  | .cons _ _ rest, i + 1, v => rest.check i v

end

end ForeignBridge
