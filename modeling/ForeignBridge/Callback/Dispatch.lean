import ForeignBridge.Exchange.Send

/-!
Calls from the native side into implementations. A call names a handle and a method and brings the
encoded arguments; whatever comes of it is reported through a call status, and only a request to stop
gets past. Failures that the method declares are reported as such, all others as faults with their class
and text.
-/

namespace ForeignBridge

/-- What a call leaves on the native side: the status, and the buffer of the result. -/
structure DispatchResult where
  status : CallStatus
  returned : Buffer
deriving DecidableEq, Repr, Inhabited

namespace Dispatcher

def allocator (d : Dispatcher) : Allocator :=
  match d.library with
  | none => .direct
  | some space => .library space

def shape (d : Dispatcher) : Shape := .callback d.interface.name d.interface.required d.registry

/-- No shape of a callback interface holds an object. -/
def noObjects : ObjectTypes := fun _ => none

/-- A new dispatcher, with a registry of its own. -/
def new (interface : CallbackInterface) (a : Allocator) (registryName : String) (first : Int)
    (logDispatch : Bool) : Act Nat := do
  let w ← get
  let library := match a with | .direct => none | .library space => some space
  let d : Dispatcher :=
    { interface, registry := w.registries.length, logDispatch, library, installed := false,
      closed := false }
  set { w with
    registries := w.registries ++ [HandleTable.new registryName first],
    dispatchers := w.dispatchers ++ [d] }
  return w.dispatchers.length

def ofId (id : Nat) : Act Dispatcher := do
  return (← get).dispatchers.getD id default

def store (id : Nat) (d : Dispatcher) : Act Unit :=
  modify fun w => { w with dispatchers := w.dispatchers.set id d }

def table (d : Dispatcher) : Act (HandleTable Value) := do
  return (← get).registries.getD d.registry (HandleTable.new "" 1)

def setTable (d : Dispatcher) (t : HandleTable Value) : Act Unit :=
  modify fun w => { w with registries := w.registries.set d.registry t }

/-- Makes sure that there is a vtable: no method takes the name of the function that frees. -/
def requireVtable (d : Dispatcher) : Act Unit := do
  if (d.interface.method? CallbackInterface.freeName).isSome then
    throw (.mismatch (.arguments (s!"fireflyffi.callbacks.{d.interface.name}VTable() got multiple values for "
      ++ s!"keyword argument '{CallbackInterface.freeName}'")))

/-- Hands the vtable to the native side, until it was taken once. The function that takes it may fail. -/
def install (id : Nat) (taken : Except Failure Unit := .ok ()) : Act Unit := do
  let d ← ofId id
  if !d.installed then
    d.requireVtable
    modify fun w => { w with installs := w.installs + 1 }
    ofExcept taken
    store id { d with installed := true }
    World.note .info .callbacks s!"Installed {d.interface.name} callback vtable"

def readArguments (impls : Implementations) : List Shape → Reading (List Value)
  | [] => return []
  | s :: rest => do
    let v ← s.read impls
    return v :: (← readArguments impls rest)

/-- Reads the arguments of a method, which must take all the bytes. -/
def arguments (d : Dispatcher) (m : CallbackMethod) (data : Bytes) : Act (List Value) := do
  let w ← get
  let reading : Reading (List Value) := do
    let vs ← readArguments w.lookup m.arguments
    let left ← Reading.remaining
    if left ≠ 0 then
      throw (.trailing left (some s!"{d.interface.name}.{m.name} arguments"))
    return vs
  return (← readBytes reading data).1

/-- Calls an attribute of whatever a handle stands for. -/
def callAttribute (impl : Value) (name : String) (args : List Value) : Act Value := fun w =>
  match impl with
  | .implementation _ id _ =>
    let (r, after) := (w.implementations.getD id default).call name args
    let w := { w with implementations := w.implementations.set id after }
    match r with
    | .ok v => .ok v w
    | .error f => .error f w
  | v =>
    match v.attribute? name with
    | some a => .error (.mismatch (.notCallable a.qualifiedTypeName)) w
    | none => .error (.noAttribute v.qualifiedTypeName name) w

def expectBuffer : Option Buffer → Act Buffer
  | some b => return b
  | none => throw (.mismatch (.notBuffer "NoneType"))

/-- Finds the implementation, reads the arguments, calls, and lowers the result. -/
def perform (d : Dispatcher) (m : CallbackMethod) (handle : Int) (data : Bytes) : Act Buffer := do
  let impl ← ofExcept ((← d.table).get handle)
  let args ← d.arguments m data
  let result ← callAttribute impl m.implementedBy args
  match m.returns with
  | some s => expectBuffer (← d.allocator.lower noObjects s result)
  | none => return .null

/-- Reports a failure with a buffer, or as a fault without one if the buffer cannot be made. -/
def report (d : Dispatcher) (code : Int) (codeName : String) (make : Act (Option Buffer)) :
    Act CallStatus := fun w =>
  match (make >>= expectBuffer) w with
  | .ok b w => .ok ⟨code, b⟩ w
  | .error f w =>
    if f.family = .unwinding then .error f w
    else
      (do
        World.note .critical .callbacks
          s!"Failed to encode {codeName} for {d.interface.name} callback"
        return ⟨CallStatus.unexpectedError, .null⟩ : Act CallStatus) w

/-- The error that a failure is, with the shape of the errors that the method declares, if it is one of them. -/
def declared? (m : CallbackMethod) (f : Failure) : Except Failure (Option (Shape × Value)) :=
  match m.errors, f.declared? with
  | some s, some e => do return if ← s.handles e then some (s, e) else none
  | _, _ => .ok none

def reportFailure (d : Dispatcher) (m : CallbackMethod) (f : Failure) : Act CallStatus := do
  match ← ofExcept (declared? m f) with
  | some (s, e) =>
    d.report CallStatus.declaredError "ERROR" (d.allocator.lower noObjects s e)
  | none =>
    let name := s!"{d.interface.name}.{m.name}"
    if f.family = .contract then
      World.note .error .callbacks s!"Contract violation in {name}: {f.message}"
    else
      World.note .error .callbacks s!"Callback {name} raised an undeclared error"
    ofExcept f.ofTelling
    d.report CallStatus.unexpectedError "UNEXPECTED_ERROR"
      (do d.allocator.copy (← ofExcept (Failure.ofEncoding s!"{f.className}: {f.message}")))

/-- Answers a call of the native side, over a status and a result buffer that it brings. -/
def dispatch (d : Dispatcher) (m : CallbackMethod) (handle : Int) (data : Bytes)
    (initial : DispatchResult) : Act DispatchResult := do
  if d.logDispatch then
    World.note .debug .callbacks s!"Dispatching {d.interface.name}.{m.name} on handle {handle}"
  match ← World.attempt (d.perform m handle data) with
  | .ok b =>
    let returned := if m.returns.isSome then b else initial.returned
    return ⟨⟨CallStatus.success, initial.status.error⟩, returned⟩
  | .error f =>
    if f.family = .unwinding then throw f
    return ⟨← d.reportFailure m f, initial.returned⟩

/-- Answers a call through the vtable, where nothing is raised: what gets past leaves all as it was. -/
def dispatchThroughVtable (d : Dispatcher) (m : CallbackMethod) (handle : Int) (data : Bytes)
    (initial : DispatchResult) : Act DispatchResult := do
  d.requireVtable
  match ← World.attempt (d.dispatch m handle data initial) with
  | .ok r => return r
  | .error _ => return initial

def free (d : Dispatcher) (handle : Int) : Act Unit := do
  let (r, after) := (← d.table).remove handle
  match r with
  | .ok _ =>
    d.setTable after
    if d.logDispatch then
      World.note .debug .callbacks s!"Freed {d.interface.name} handle {handle}"
  | .error f =>
    if d.closed then World.note .debug .callbacks s!"Ignoring free after shutdown: {f.message}"
    else World.note .critical .callbacks s!"Native side freed an unknown handle: {f.message}"

/-- Drops every implementation and tells how many there were. -/
def close (id : Nat) : Act Nat := do
  let d ← ofId id
  let (count, after) := (← d.table).clear
  d.setTable after
  store id { d with closed := true }
  return count

def sendArguments : List Shape → List Value → Act Bytes
  | s :: shapes, v :: values => do
    let first ← s.send noObjects v
    return first ++ (← sendArguments shapes values)
  | _, _ => return []

end Dispatcher

end ForeignBridge
