import ForeignBridge.Wire.Read
import ForeignBridge.Wire.Write

/-!
The codec of shapes without handles, as functions on values and bytes; and lowering and lifting, which
convert to and from the argument or return value of a native call.
-/

namespace ForeignBridge

mutual

/-- Whether a shape holds no handle, so that its values are data through and through. -/
def Shape.isPlain : Shape → Bool
  | .optional inner | .sequence inner => inner.isPlain
  | .map key value => key.isPlain && value.isPlain
  | .record _ _ fields => fields.isPlain
  | .union _ variants => variants.isPlain
  | .object _ | .callback _ _ _ => false
  | _ => true

def Fields.isPlain : Fields → Bool
  | .nil => true
  | .cons _ shape rest => shape.isPlain && rest.isPlain

def Variants.isPlain : Variants → Bool
  | .nil => true
  | .cons _ fields rest => fields.isPlain && rest.isPlain

end

namespace Shape

/-- The encoding of a value: it is checked first, and then written. -/
def encode (s : Shape) (v : Value) : Except Failure Bytes := do
  s.check v
  let script := s.write v
  match script.failure with
  | some f => .error f
  | none => .ok script.leadingBytes

/-- The value that bytes encode; no byte may be left over. -/
def decode (s : Shape) (data : Bytes) : Except Failure Value :=
  match s.readAll .none (.ofBytes data) with
  | .ok v _ => .ok v
  | .error f _ => .error f

/-- The argument that a value becomes: a boolean becomes a number, all else stays as it is. -/
def lower (s : Shape) (v : Value) : Except Failure Value := do
  s.check v
  match s, v with
  | .boolean, .bool b => return .int (if b then 1 else 0)
  | _, v => return v

def lift (s : Shape) (v : Value) : Except Failure Value :=
  match s with
  | .boolean =>
    if v.same (.int 1) then .ok (.bool true)
    else if v.same (.int 0) then .ok (.bool false)
    else do
      Failure.ofShowing v
      throw (.invalidValue (.notBoolean v.shown))
  | _ => .ok v

/-- Whether an error is of a kind that a union of errors declares; other shapes declare none. -/
def handles (s : Shape) (v : Value) : Except Failure Bool :=
  match s, v with
  | .errors _ kinds, .declared kind _ => .ok (kinds.contains kind)
  | .errors .., _ => .ok false
  | s, _ => .error (.noAttribute s.converterName "handles")

/-- The shape of a record class whose fields are named in order, with a shape for each. -/
def ofRecordClass (name : String) (isRecord : Bool) (fields : List String)
    (shapes : List (String × Shape)) : Except Failure Shape :=
  if !isRecord then .error (.mismatch (.notRecordClass name)) else
  let given := (shapes.map Prod.fst).eraseDups
  let missing := fields.eraseDups.filter fun f => !given.contains f
  let unexpected := given.filter fun f => !fields.contains f
  if missing.isEmpty && unexpected.isEmpty then
    let latest := shapes.foldl (fun kept s => Value.put s.1 s.2 kept) []
    let chosen := fields.eraseDups.filterMap fun f => (Value.lookup f latest).map (f, ·)
    .ok (recordOf name (.ofList chosen) "")
  else
    let sorted (names : List String) := names.mergeSort (fun a b => decide (a ≤ b))
    .error (.unsendable (.fieldMismatch name (sorted missing) (sorted unexpected)))

end Shape

end ForeignBridge
