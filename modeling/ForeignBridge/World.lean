import ForeignBridge.Callback.Interface
import ForeignBridge.HandleTable
import ForeignBridge.Log.Entry
import ForeignBridge.Object.Guard

/-!
The world: all that calls across the boundary can change, on both sides. An action runs in the world
and may fail; what it did before it failed stays done.
-/

namespace ForeignBridge

/-- The outcomes that stand in for the native library's own allocation functions. -/
structure AllocatorFaults where
  alloc : FaultScript
  copy : FaultScript
  free : FaultScript
deriving Inhabited

/-- What binds a callback interface to a registry of implementations. -/
structure Dispatcher where
  interface : CallbackInterface
  registry : Nat
  logDispatch : Bool
  /-- whether buffers come from the library's own functions, whose names hold this namespace -/
  library : Option String
  installed : Bool
  closed : Bool
deriving Inhabited

structure World where
  arena : Arena
  faults : AllocatorFaults
  heap : NativeHeap
  guards : List ObjectGuard
  registries : List (HandleTable Value)
  dispatchers : List Dispatcher
  implementations : List Implementation
  /-- how often a vtable was handed to the native side -/
  installs : Nat
  /-- the native functions called to verify contracts, with how often -/
  calls : List (String × Nat)
  log : List LogEntry
deriving Inhabited

/-- An action in the world; on failure the world is as the action left it. -/
abbrev Act := EStateM Failure World

namespace World

def new (refusals : List Nat) : World :=
  { arena := .new refusals, faults := ⟨[], [], []⟩, heap := ⟨[], [], [], []⟩, guards := [],
    registries := [], dispatchers := [], implementations := [], installs := 0, calls := [],
    log := [] }

def note (level : Level) (channel : Channel) (message : String) : Act Unit :=
  modify fun w => { w with log := w.log ++ [⟨level, channel, message⟩] }

/-- Runs an action and then another one, whether the first failed or not. A failure of the second
takes the place of the first one's. -/
def andFinally {α : Type} (x : Act α) (after : Act Unit) : Act α := fun w =>
  match x w with
  | .ok a w =>
    match after w with
    | .ok _ w => .ok a w
    | .error e w => .error e w
  | .error e w =>
    match after w with
    | .ok _ w => .error e w
    | .error e w => .error e w

/-- Runs an action and then, if it failed, another one on the failure, which stands. -/
def onFailure {α : Type} (x : Act α) (handle : Failure → Act Unit) : Act α := fun w =>
  match x w with
  | .ok a w => .ok a w
  | .error e w =>
    match handle e w with
    | .ok _ w => .error e w
    | .error e w => .error e w

/-- Runs an action and gives its result as a value. -/
def attempt {α : Type} (x : Act α) : Act (Except Failure α) := fun w =>
  match x w with
  | .ok a w => .ok (.ok a) w
  | .error e w => .ok (.error e) w

def inArena {α : Type} (f : Arena → Except Failure α × Arena) : Act α := fun w =>
  match f w.arena with
  | (.ok a, arena) => .ok a { w with arena := arena }
  | (.error e, arena) => .error e { w with arena := arena }

end World

end ForeignBridge
