import ForeignBridge.Callback.Dispatch
import ForeignBridge.Config.Basic
import ForeignBridge.Contract.Verify
import ForeignBridge.Native.Envelope
import ForeignBridge.Object.Lifetime

/-!
One set of bindings over its life. Calls and callbacks are there only between a start and a shutdown, and
a start verifies the contract unless the configuration says not to. A shutdown closes every dispatcher
and tells how many handles the native side kept.
-/

namespace ForeignBridge

structure Bindings where
  library : NativeLibrary
  config : RuntimeConfig
  manifest : Option ContractManifest
  allocator : Option Allocator
  started : Bool
  report : Option ContractReport
  /-- the numbers of the dispatchers by interface, in the order of their registration -/
  dispatchers : List (String × Nat)
deriving Inhabited

namespace Bindings

def new (library : NativeLibrary) (config : RuntimeConfig) (manifest : Option ContractManifest)
    (allocator : Option Allocator) : Bindings :=
  ⟨library, config, manifest, allocator, false, none, []⟩

/-- The file that the configuration names for the manifest. -/
def manifestPath? (config : RuntimeConfig) : Option String :=
  config.contract.value.manifestFile.value.bind named

/-- The namespace that the configuration gives, or else the manifest. -/
def space (b : Bindings) : Option String :=
  match b.config.space.value.bind named with
  | some s => some s
  | none => b.manifest.map (·.space)

/-- The allocator: the one given, or the library's own functions, bound when first needed. -/
def bindAllocator (b : Bindings) : Except Failure (Allocator × Bindings) :=
  match b.allocator with
  | some a => .ok (a, b)
  | none =>
    match b.space.bind named with
    | none => .error .noNamespace
    | some s => do
      let a ← Allocator.bind s b.library.bufferExports
      return (a, { b with allocator := some a })

/-- The allocator through which calls go, while the bindings run. -/
def running (b : Bindings) : Except Failure Allocator :=
  match b.started, b.allocator with
  | true, some a => .ok a
  | _, _ => .error .notRunning

/-- A type of native objects whose clones and frees go through the running bindings. -/
def objectType (b : Bindings) (name : String) (clone free : NativeFunction) : Except Failure ObjectType := do
  return ⟨name, clone, free, ← b.running⟩

def verify (b : Bindings) : Act Bindings := do
  if b.config.contract.value.verifyOnStart.value then
    match b.manifest with
    | none => throw .noManifest
    | some m => return { b with report := some (← verifyContract b.library m true) }
  else
    World.note .warning .runtime "Contract verification disabled; skipping startup checks"
    return b

/-- Starts the bindings unless they run. On failure they are as the failure left them. -/
def start (b : Bindings) : Act (Except Failure Unit × Bindings) := do
  if b.started then return (.ok (), b)
  let shown := b.space.getD "None"
  World.note .info .runtime s!"Starting FFI runtime for namespace '{shown}'"
  match ← World.attempt b.verify with
  | .error f => return (.error f, b)
  | .ok b =>
    match b.bindAllocator with
    | .error f => return (.error f, b)
    | .ok (_, b) =>
      World.note .info .runtime "FFI runtime started"
      return (.ok (), { b with started := true })

/-- The number of the dispatcher for an interface, which is made if there is none. -/
def register (b : Bindings) (i : CallbackInterface) : Act (Nat × Bindings) := do
  if !b.started then throw .notRunning
  match Value.lookup i.name b.dispatchers with
  | some id => return (id, b)
  | none =>
    let (a, b) ← ofExcept b.bindAllocator
    let id ← Dispatcher.new i a i.name 1 b.config.callbacks.value.logDispatch.value
    World.note .debug .runtime s!"Registered callback interface {i.name}"
    return (id, { b with dispatchers := b.dispatchers ++ [(i.name, id)] })

/-- Registers an interface and, if there is a function for it, hands over the vtable. A failure of that function leaves
the interface registered. -/
def registerWith (b : Bindings) (i : CallbackInterface) (init : Option (Except Failure Unit)) :
    Act (Except Failure Nat × Bindings) := do
  match ← World.attempt (b.register i), init with
  | .error f, _ => return (.error f, b)
  | .ok (id, b), none => return (.ok id, b)
  | .ok (id, b), some taken =>
    match ← World.attempt (Dispatcher.install id taken) with
    | .error f => return (.error f, b)
    | .ok () => return (.ok id, b)

/-- The number of the dispatcher that was registered for an interface. -/
def dispatcher (b : Bindings) (name : String) : Except Failure Nat :=
  match Value.lookup name b.dispatchers with
  | some id => .ok id
  | none => .error (.noKey s!"Callback interface '{name}' is not registered")

/-- Closes dispatchers one after another and tells which kept how many handles. -/
def closeAll (warn : Bool) : List (String × Nat) → Act (List (String × Nat))
  | [] => return []
  | (name, id) :: rest => do
    let count ← Dispatcher.close id
    if count ≠ 0 && warn then
      World.note .warning .runtime s!"{count} {name} callback handle(s) were never freed"
    let leaked ← closeAll warn rest
    return if count = 0 then leaked else (name, count) :: leaked

/-- Stops the bindings and tells which handles were never freed. -/
def shutdown (b : Bindings) : Act (List (String × Nat) × Bindings) := do
  if !b.started then return ([], b)
  let leaked ← closeAll b.config.callbacks.value.warnOnLeakedHandles.value b.dispatchers
  World.note .info .runtime "FFI runtime shutdown complete"
  return (leaked, { b with started := false, dispatchers := [] })

end Bindings

end ForeignBridge
