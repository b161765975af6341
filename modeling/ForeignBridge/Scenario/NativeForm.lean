import ForeignBridge.Scenario.ShapeForm
import ForeignBridge.Native.Envelope
import ForeignBridge.Callback.Dispatch
import ForeignBridge.Contract.Verify

/-!
The native side of a scenario: outcomes, functions, faults of the allocator and of the heap, and the
implementations and interfaces of callbacks, written as documents.
-/

namespace ForeignBridge.NativeForm

/-- The error buffer that an outcome describes; an error that cannot be encoded has none. -/
def payload (n : Vocabulary) (v : Value) : Except Failure Payload :=
  if let some (.text t) := v.field? "message" then .ok (.data (Utf8.encode t))
  else if let some h := v.field? "hex" then .ok (.data (ValueForm.bytes h))
  else if let some l := v.field? "null_len" then .ok (.unbacked (ValueForm.integer l).toNat)
  else
    match v.given? "error" with
    | none => .ok .none
    | some e => do
      let shape := ShapeForm.read n ShapeForm.noOwnShapes (e.field "type")
      return .data (← shape.encode (ValueForm.read n (e.field "value")))

def outcome (n : Vocabulary) (v : Value) : Except Failure NativeOutcome :=
  (payload n v).map fun p => ⟨ValueForm.integerField v "code" 0, p⟩

/-- The outcomes that take the place of calls, with gaps for those that do their work. -/
def faults (n : Vocabulary) (v : Value) : FaultScript :=
  v.asItems.map fun o => match o with | .null => none | o => (outcome n o).toOption

def function (n : Vocabulary) (v : Value) : NativeFunction :=
  let name := v.textField "name"
  match outcome n v with
  | .ok o => .scripted name (ValueForm.read n (v.field "result")) o
  | .error f => ⟨NativeFunction.describe name, fun _ => throw f⟩

def world (n : Vocabulary) (v : Value) : World :=
  let w := World.new ((v.itemsField "fail_on").map fun k => (ValueForm.integer k).toNat)
  let native := (v.field "native").field "faults"
  let heap := v.field "faults"
  { w with
    faults := ⟨faults n (native.field "alloc"), faults n (native.field "from_bytes"),
      faults n (native.field "free")⟩,
    heap := { w.heap with cloneFaults := faults n (heap.field "clone"),
                          freeFaults := faults n (heap.field "free") } }

/-- The functions for buffers that the library of a scenario exports. -/
def bufferExports (v : Value) : List String :=
  match v.given? "native" with
  | none => []
  | some native =>
    let space := native.textField "namespace"
    let missing := (native.itemsField "missing").map fun m => Allocator.symbol space m.asText
    (Allocator.neededSymbols space).filter fun s => !missing.contains s

/-- The allocator of a scenario, or the failure to bind it. -/
def allocator (v : Value) : Except Failure Allocator :=
  match v.given? "native" with
  | none => .ok .direct
  | some native => Allocator.bind (native.textField "namespace") (bufferExports v)

def library (v : Value) : NativeLibrary :=
  ⟨(v.field "symbols").asMembers.map fun s => (s.1, ValueForm.integer s.2), bufferExports v⟩

/-- A document as a scenario holds it: pairs where the order of entries counts. -/
def documentWithin : Nat → Value → Value
  | 0, v => v
  | fuel + 1, v =>
    match v with
    | .list items => .list (items.map (documentWithin fuel))
    | .dict entries =>
      match v.field? "pairs" with
      | some pairs => .ofMembers (pairs.asPairs.map fun e => (e.1, documentWithin fuel e.2))
      | none => .dict (entries.map fun e => (e.1, documentWithin fuel e.2))
    | v => v

def document (v : Value) : Value := documentWithin v.depth v

def attributeOf (n : Vocabulary) (v : Value) : Attribute :=
  let method (a : Action) : Attribute :=
    .method ⟨ValueForm.given? n v "raise_if_negative", a⟩ 0 (.int 0)
  if let some a := v.field? "value" then .constant (ValueForm.read n a)
  else if let some a := v.field? "raise" then method (.raises (ValueForm.read n a))
  else if let some i := v.field? "echo" then method (.echo (ValueForm.integer i))
  else if (v.field? "calls").isSome then method .countCalls
  else if (v.field? "sum").isSome then method .sum
  else method (.returns (ValueForm.read n (v.field "return")))

def implementations (n : Vocabulary) (v : Value) : List (String × Implementation) :=
  (v.field "impls").asMembers.map fun e =>
    (e.1, ⟨e.2.textField "class",
      (e.2.field "methods").asMembers.map fun m => (m.1, attributeOf n m.2)⟩)

/-- A vocabulary in which the names of implementations stand for them. -/
def withImplementations (n : Vocabulary) (impls : List (String × Implementation)) : Vocabulary :=
  { n with refs := fun r => do
      let i ← impls.findIdx? (·.1 == r)
      let p ← impls[i]?
      return .implementation p.2.cls i p.2.callable }

def referTo (impls : List (String × Implementation)) (v : Value) : Value :=
  match v with
  | .implementation _ id _ => .ofMembers [("ref", .text ((impls[id]?.map Prod.fst).getD ""))]
  | _ => .null

/-- An interface; a method may tell under `nameKey` what implementations call it. -/
def interface (n : Vocabulary) (own : ShapeForm.OwnShapes) (nameKey : String) (v : Value) :
    CallbackInterface :=
  { name := v.textField "name",
    methods := (v.itemsField "methods").map fun m =>
      { name := m.textField "name",
        arguments := (m.itemsField "args").map (ShapeForm.read n own),
        returns := ShapeForm.given? n own m "returns",
        errors := ShapeForm.given? n own m "errors",
        otherName := (m.field nameKey).asText? } }

/-- An interface whose methods may take or return its own implementations, held in a registry. -/
def ownInterface (n : Vocabulary) (nameKey : String) (v : Value) (registry : Nat) : CallbackInterface :=
  let bare := interface n ShapeForm.noOwnShapes nameKey v
  interface n
    (fun s => if s = "Callback" then some (.callback bare.name bare.required registry) else none)
    nameKey v

end ForeignBridge.NativeForm
