import ForeignBridge.World
import ForeignBridge.Wire.Codec

/-!
Buffers that cross the boundary. A buffer received from the native side belongs to the managed side,
which reads it once and releases it through the allocator; a buffer made here for an argument belongs to
the native side. The allocator is either the arena itself or the library's own functions, which report
through a call status as every native function does.
-/

namespace ForeignBridge

inductive Allocator
  | direct
  /-- the functions of a library, whose names hold its namespace -/
  | library (space : String)
deriving DecidableEq, Repr, Inhabited

namespace Allocator

/-- The names of the functions that a library exports for its buffers. -/
def symbol (space operation : String) : String := s!"ffi_{space}_rustbuffer_{operation}"

def allocSymbol (space : String) : String := symbol space "alloc"

def copySymbol (space : String) : String := symbol space "from_bytes"

def freeSymbol (space : String) : String := symbol space "free"

end Allocator

/-- Bytes that a library is lent to copy, with their number in a signed word of 32 bits. -/
structure LentBytes where
  len : Int
  data : Bytes
deriving DecidableEq, Repr, Inhabited

/-- The number of the bytes wraps into its word. -/
def LentBytes.ofBytes (data : Bytes) : LentBytes := ⟨signedOf 4 (residueOf 4 data.length), data⟩

/-- The copy that a library makes of what it is lent. What it makes of a number that is not that of the bytes is
its own affair. -/
def Arena.copyLent (a : Arena) (lent : LentBytes) : Except Failure Buffer × Arena := a.copy lent.data

def releaseWith (free : Buffer → Act Unit) (b : Buffer) : Act Unit := do
  World.note .debug .buffers s!"Releasing native buffer {b.text}"
  free b

def viewOf (b : Buffer) : Act Bytes := do
  let w ← get
  return if b.isEmpty then [] else w.arena.view b

def World.lookup (w : World) : Implementations := fun registry handle =>
  match w.registries[registry]? with
  | some table => table.get handle
  | none => .error (.unknownHandle handle "")

/-- Runs a reading over bytes, and gives the reader as the reading left it. -/
def readBytes {α : Type} (x : Reading α) (data : Bytes) : Act (α × Reader) := do
  match x (.ofBytes data) with
  | .ok a r => return (a, r)
  | .error f _ => throw f

/-- Decodes a buffer that the native side returned, and releases it. -/
def liftWith (free : Buffer → Act Unit) (s : Shape) (b : Buffer) : Act Value := do
  let data ← viewOf b
  World.andFinally
    (do
      let w ← get
      return (← readBytes (s.readAll w.lookup) data).1)
    (releaseWith free b)

def liftMessageWith (free : Buffer → Act Unit) (b : Buffer) : Act String :=
  World.andFinally (do return Utf8.decodeReplacing (← viewOf b)) (releaseWith free b)

/-- What a call status says: nothing on success, or the declared error. All else fails. An error buffer
is released here. -/
def settleWith (free : Buffer → Act Unit) (errors : Option Shape) (s : CallStatus) :
    Act (Option Value) := do
  if s.code = CallStatus.success then return none
  else if s.code = CallStatus.declaredError then
    match errors with
    | none =>
      releaseWith free s.error
      throw .undeclaredError
    | some shape => return some (← liftWith free shape s.error)
  else if s.code = CallStatus.unexpectedError then
    if 0 < s.error.len then throw (.panic (← liftMessageWith free s.error))
    else
      if s.error.data.isSome then releaseWith free s.error
      throw .faultWhileHandlingFault
  else throw (.unknownStatus s.code)

/-- Logs a failed call: a fault of the native side or a contract violation; other failures pass. -/
def noteFailedCall (name : String) (f : Failure) : Act Unit :=
  match f.family with
  | .nativeFault => World.note .error .calls s!"Native fault in {name}: {f.message}"
  | .contract => World.note .error .calls s!"Contract violation while calling {name}: {f.message}"
  | _ => pure ()

def writeOutcome (o : NativeOutcome) : Act CallStatus :=
  World.inArena fun a =>
    let (s, a) := o.write a
    (.ok s, a)

/-- Frees through a library, whose next calls are scripted. Settling a failed free frees its error
buffer with what is left of the script, so that this ends with the script. -/
def freeThrough (space : String) : FaultScript → Buffer → Act Unit
  | [], b => World.inArena (·.free b)
  | none :: rest, b => do
    modify fun w => { w with faults := { w.faults with free := rest } }
    World.inArena (·.free b)
  | some o :: rest, _ => do
    modify fun w => { w with faults := { w.faults with free := rest } }
    let s ← writeOutcome o
    let _ ← World.onFailure (settleWith (freeThrough space rest) none s)
      (noteFailedCall (Allocator.freeSymbol space))

namespace Allocator

def free (a : Allocator) (b : Buffer) : Act Unit := do
  match a with
  | direct => World.inArena (·.free b)
  | library space => freeThrough space (← get).faults.free b

def release (a : Allocator) (b : Buffer) : Act Unit := releaseWith a.free b

def lift (a : Allocator) (s : Shape) (b : Buffer) : Act Value := liftWith a.free s b

def liftMessage (a : Allocator) (b : Buffer) : Act String := liftMessageWith a.free b

def settle (a : Allocator) (errors : Option Shape) (s : CallStatus) : Act (Option Value) :=
  settleWith a.free errors s

/-- Runs a library function that makes a buffer, or the outcome scripted in its place, which makes none. -/
def makeThrough (a : Allocator) (name : String) (script : FaultScript)
    (store : FaultScript → AllocatorFaults → AllocatorFaults)
    (work : Arena → Except Failure Buffer × Arena) : Act (Option Buffer) := do
  match script with
  | [] => some <$> World.inArena work
  | none :: rest =>
    modify fun w => { w with faults := store rest w.faults }
    some <$> World.inArena work
  | some o :: rest =>
    modify fun w => { w with faults := store rest w.faults }
    let s ← writeOutcome o
    let _ ← World.onFailure (a.settle none s) (noteFailedCall name)
    return none

/-- Calls the function of a library that copies what it is lent. -/
def copyThrough (space : String) (lent : LentBytes) : Act (Option Buffer) := do
  (library space).makeThrough (copySymbol space) (← get).faults.copy (fun r f => { f with copy := r })
    (·.copyLent lent)

/-- A new buffer that holds a copy of bytes. -/
def copy (a : Allocator) (data : Bytes) : Act (Option Buffer) := do
  match a with
  | direct => some <$> World.inArena (·.copy data)
  | library space => copyThrough space (.ofBytes data)

def zeros (a : Allocator) (size : Nat) : Act (Option Buffer) := do
  let work (arena : Arena) : Except Failure Buffer × Arena :=
    let (b, arena) := arena.zeros size
    (.ok b, arena)
  match a with
  | direct => some <$> World.inArena work
  | library space =>
    a.makeThrough (allocSymbol space) (← get).faults.alloc (fun r f => { f with alloc := r }) work

/-- The functions that a library needs for its buffers, in the order in which they are bound. -/
def neededSymbols (space : String) : List String :=
  [allocSymbol space, copySymbol space, freeSymbol space]

/-- Binds the functions that a library exports; the first missing one is named. -/
def bind (space : String) (exported : List String) : Except Failure Allocator :=
  match (neededSymbols space).find? fun s => !exported.contains s with
  | some missing => .error (.noAttribute "NativeLibrary" missing)
  | none => .ok (.library space)

end Allocator

/-- A buffer that was received: it is read where it lies, and released once. -/
structure ReceivedBuffer where
  raw : Buffer
  released : Bool
deriving DecidableEq, Repr, Inhabited

namespace ReceivedBuffer

/-- The length, if a signed 64-bit number holds it. -/
def length (r : ReceivedBuffer) : Except Failure Nat :=
  if r.raw.len < 2 ^ 63 then .ok r.raw.len
  else .error (.overflow "cannot fit 'int' into an index-sized integer")

def view (r : ReceivedBuffer) : Act Bytes :=
  if r.released then throw (.bufferReleased r.raw.text) else viewOf r.raw

/-- Releases the buffer unless it was released before. It counts as released even if freeing fails. -/
def release (a : Allocator) (r : ReceivedBuffer) : Act Unit :=
  if r.released then pure () else a.release r.raw

/-- Reads the buffer, which must then be read to its end, and releases it whatever comes of that. -/
def consume {α : Type} (r : ReceivedBuffer) (a : Allocator) (typeName : Option String)
    (x : Reading α) : Act α := do
  let data ← r.view
  World.andFinally
    (do
      let reading : Reading α := do
        let v ← x
        let left ← Reading.remaining
        if left ≠ 0 then throw (.trailing left typeName)
        return v
      return (← readBytes reading data).1)
    (r.release a)

end ReceivedBuffer

end ForeignBridge
