import ForeignBridge.Wire.Reader
import ForeignBridge.Wire.Shape

/-!
Reading a value. The declared count of a sequence or map is held against the bytes that remain before
any element is read; elements without bytes are limited in number instead. A handle of a callback
interface is looked up through `Implementations`.
-/

namespace ForeignBridge

/-- What the registries hold: by registry and handle, the implementation or the failure to find it. -/
abbrev Implementations := Nat → Int → Except Failure Value

def Implementations.none : Implementations := fun _ handle => .error (.unknownHandle handle "")

/-- The most elements that may be declared without a byte for each. -/
def maxZeroWidthCount : Nat := 2 ^ 16

def nanosPerSecond : Nat := 1000000000

namespace Read

/-- A length or count, which is not negative. -/
def length (typeName : String) : Reading Nat := do
  let n ← Reading.int .i32
  if n < 0 then throw (.invalidValue (.negativeLength n typeName))
  return n.toNat

/-- Why a count is refused for the least width of an element and the bytes left, if it is. -/
def countFault? (typeName : String) (count width left : Int) : Option Failure :=
  if width = 0 then
    if maxZeroWidthCount < count then
      some (.invalidValue (.zeroWidthCount typeName count.toNat maxZeroWidthCount))
    else none
  else if left.fdiv width < count then some (.underflow (count * width) left)
  else none

/-- Refuses a count that the bytes left cannot hold at the least width of an element. -/
def checkCount (count width : Nat) (typeName : String) : Reading Unit := do
  let left ← if width = 0 then pure 0 else Reading.remaining
  match countFault? typeName count width left with
  | some f => throw f
  | none => return ()

/-- The position of a variant, counted from zero. -/
def discriminant (typeName : String) (count : Nat) : Reading Nat := do
  let d ← Reading.int .i32
  if 1 ≤ d ∧ d ≤ count then return (d - 1).toNat
  throw (.discriminant typeName d count)

def boolean : Reading Value := do
  let b ← Reading.int .i8
  if b = 0 then return .bool false
  if b = 1 then return .bool true
  throw (.invalidValue (.badBoolean b))

def text : Reading Value := do
  let n ← length "String"
  let raw ← Reading.take n
  match Utf8.decode raw with
  | .ok s => return .text s
  | .error fault => throw (.invalidValue (.badUtf8 fault))

def bytes : Reading Value := do
  let n ← length "Bytes"
  let raw ← Reading.take n
  return .bytes .frozen raw

def nanos (typeName : String) : Reading Nat := do
  let n := (← Reading.int .u32).toNat
  if nanosPerSecond ≤ n then throw (.invalidValue (.nanoseconds n typeName))
  return n

def timestamp : Reading Value := do
  let seconds ← Reading.int .i64
  let n ← nanos "Timestamp"
  match Moment.ofInstant? (seconds * Calendar.microsPerSecond + (n / 1000 : Nat)) with
  | some t => return .moment t
  | none => throw (.invalidValue (.timestampRange seconds))

def duration : Reading Value := do
  let seconds ← Reading.int .u64
  let n ← nanos "Duration"
  let s := Span.ofParts 0 seconds (n / 1000 : Nat)
  if s.InRange then return .span s
  throw (.invalidValue (.durationRange seconds.toNat))

def enumeration (e : EnumType) : Reading Value := do
  let i ← discriminant e.name e.members.length
  match e.members[i]? with
  | some (name, value) => return .member e.name name value
  | none => throw (.discriminant e.name (i + 1) e.members.length)

def errors (name : String) (kinds : List String) : Reading Value := do
  let i ← discriminant name kinds.length
  match kinds[i]? with
  | some kind => return .declared kind (← text)
  | none => throw (.discriminant name (i + 1) kinds.length)

end Read

mutual

/-- The pointers of the references that a dropped value held, in the order of their dropping: a list
goes from its end, all else from its front. -/
def Value.held : Value → List Nat
  | .received _ pointer => [pointer]
  | .list items | .tuple items => heldFromEnd items
  | .dict entries => heldInEntries entries
  | .record _ _ fields => heldInFields fields
  | _ => []

def heldFromEnd : List Value → List Nat
  | [] => []
  | v :: rest => heldFromEnd rest ++ v.held

def heldInEntries : List (Value × Value) → List Nat
  | [] => []
  | (k, v) :: rest => k.held ++ v.held ++ heldInEntries rest

def heldInFields : List (String × Option Value) → List Nat
  | [] => []
  | (_, some v) :: rest => v.held ++ heldInFields rest
  | (_, none) :: rest => heldInFields rest

end

namespace Read

/-- Reads a number of elements; `sofar` holds those read, the last first. -/
def elements (element : Reading Value) : Nat → List Value → Reading (List Value)
  | 0, sofar => return sofar.reverse
  | n + 1, sofar => do
    let v ← element.orDrop fun _ => sofar.flatMap Value.held
    elements element n (v :: sofar)

/-- Adds an entry to those read. A key that cannot be one is noticed once its value is read. -/
def addEntry (k v : Value) (sofar : List (Value × Value)) : Reading (List (Value × Value)) := do
  match k.unhashable? with
  | some name =>
    Reading.drop (v.held ++ heldInEntries sofar ++ k.held)
    throw (.mismatch (.unhashable name))
  | none =>
    match Value.entry? k sofar with
    | some old => Reading.drop old.held
    | none => pure ()
    return Value.insertEntry k v sofar

def entries (key value : Reading Value) :
    Nat → List (Value × Value) → Reading (List (Value × Value))
  | 0, sofar => return sofar
  | n + 1, sofar => do
    let k ← key.orDrop fun _ => heldInEntries sofar
    let v ← value.orDrop fun _ => heldInEntries sofar ++ k.held
    entries key value n (← addEntry k v sofar)

/-- Adds a field to those read; a field listed twice takes the later value. -/
def addField (name : String) (v : Value) (sofar : List (String × Option Value)) :
    Reading (List (String × Option Value)) := do
  match (Value.lookup name sofar).join with
  | some old => Reading.drop old.held
  | none => pure ()
  return Value.put name (some v) sofar

end Read

mutual

def Shape.read (impls : Implementations) : Shape → Reading Value
  | .integer k => Reading.scalar k.layout
  | .float32 => Reading.scalar .f32
  | .float64 => Reading.scalar .f64
  | .boolean => Read.boolean
  | .text => Read.text
  | .bytes => Read.bytes
  | .timestamp => Read.timestamp
  | .duration => Read.duration
  | .optional inner => do
    let flag ← Reading.int .u8
    if flag = 0 then return .null
    if flag = 1 then inner.read impls
    else throw (.invalidValue (.badPresence flag.toNat (Shape.optional inner).typeName))
  | .sequence inner => do
    let name := (Shape.sequence inner).typeName
    let count ← Read.length name
    Read.checkCount count inner.minWidth name
    return .list (← Read.elements (inner.read impls) count [])
  | .map key value => do
    let name := (Shape.map key value).typeName
    let count ← Read.length name
    Read.checkCount count (key.minWidth + value.minWidth) name
    return .dict (← Read.entries (key.read impls) (value.read impls) count [])
  | .record cls _ fields => return .record cls [] (← fields.read impls [])
  | .enumeration e => Read.enumeration e
  | .union name variants => do
    let i ← Read.discriminant name variants.size
    variants.read impls i
  | .errors name kinds => Read.errors name kinds
  | .object cls => do
    let p ← Reading.int .u64
    return .received cls p.toNat
  | .callback _ _ registry => do
    let handle ← Reading.int .u64
    match impls registry handle with
    | .ok v => return v
    | .error f => throw f

/-- Reads the fields in order, after those read before them. -/
def Fields.read (impls : Implementations) :
    Fields → List (String × Option Value) → Reading (List (String × Option Value))
  | .nil, sofar => return sofar
  | .cons name shape rest, sofar => do
    let v ← (shape.read impls).orDrop fun _ => heldInFields sofar
    rest.read impls (← Read.addField name v sofar)

def Variants.read (impls : Implementations) : Variants → Nat → Reading Value
  | .nil, _ => return .null
  | .cons cls fields _, 0 => return .record cls [] (← fields.read impls [])
  | .cons _ _ rest, i + 1 => rest.read impls i

end

/-- Requires that nothing is left, else drops the value. -/
def Read.requireEnd (typeName : String) (v : Value) : Reading Value := do
  let left ← Reading.remaining
  if left ≠ 0 then
    Reading.drop v.held
    throw (.trailing left (some typeName))
  return v

def Shape.readAll (impls : Implementations) (s : Shape) : Reading Value := do
  Read.requireEnd s.typeName (← s.read impls)

end ForeignBridge
