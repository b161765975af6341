import ForeignBridge.Native.Envelope

/-!
The lifetime of native objects. Each call borrows: the guard's count is raised, the native side clones
its reference, and the clone is what the call uses. A borrow that cannot be cloned is given back, and
the last one to go after a destroy frees the reference.
-/

namespace ForeignBridge

/-- A type of native objects, with the functions that clone and free a reference. -/
structure ObjectType where
  name : String
  clone : NativeFunction
  free : NativeFunction
  allocator : Allocator

namespace ObjectType

def text (t : ObjectType) : String := s!"ObjectType({Quoted.text t.name})"

def cloneReference (t : ObjectType) (pointer : Int) : Act Int := do
  let v ← t.allocator.call t.clone [.int pointer] none
  return v.wholeNumber?.getD 0

def freeReference (t : ObjectType) (pointer : Int) : Act Unit := do
  let _ ← t.allocator.call t.free [.int pointer] none
  return

end ObjectType

def guardOf (id : Nat) : Act ObjectGuard := do
  return (← get).guards.getD id default

def setGuard (id : Nat) (g : ObjectGuard) : Act Unit :=
  modify fun w => { w with guards := w.guards.set id g }

def newGuard (pointer : Int) (maxBorrows : Int) : Act Nat := do
  let w ← get
  set { w with guards := w.guards ++ [ObjectGuard.new pointer maxBorrows] }
  return w.guards.length

namespace ObjectType

/-- Gives a borrow back. Whoever takes the count below zero frees. -/
def releaseBorrow (t : ObjectType) (id : Nat) : Act Unit := do
  let g ← guardOf id
  let (last, after) := g.giveBack
  setGuard id after
  if last then
    World.note .debug .objects s!"Freeing {t.name} object {pointerText g.pointer}"
    t.freeReference g.pointer

def clonePointer (t : ObjectType) (id : Nat) : Act Int := do
  let g ← guardOf id
  match g.take t.name with
  | .error f => throw f
  | .ok after =>
    setGuard id after
    World.onFailure (t.cloneReference g.pointer) fun _ => t.releaseBorrow id

/-- Destroys the guard's reference. Only the first call does anything. -/
def destroy (t : ObjectType) (id : Nat) : Act Bool := do
  let (first, after) := (← guardOf id).markDestroyed
  if first then
    setGuard id after
    t.releaseBorrow id
  return first

/-- Borrows the object for the length of an action. -/
def borrowing {α : Type} (t : ObjectType) (id : Nat) (use : Int → Act α) : Act α := do
  let pointer ← t.clonePointer id
  World.andFinally (use pointer) (t.releaseBorrow id)

/-- Gives up a borrow nobody is left to answer for: it ends as any other, and a failure in freeing has
no one to go to. -/
def abandon (t : ObjectType) (id : Nat) : Act Unit := do
  let _ ← World.attempt (t.releaseBorrow id)
  return

end ObjectType

/-- Pops the next outcome of a script in the world. -/
def popFault (script : World → FaultScript) (store : World → FaultScript → World) :
    Act (Option NativeOutcome) := do
  let w ← get
  match script w with
  | [] => return none
  | o :: rest =>
    set (store w rest)
    return o

def pointerOf (args : List Value) : Int := ((args.head?.bind Value.wholeNumber?).getD 0)

/-- A clone function over reference counts; the outcomes scripted for it come first and return 0. -/
def countingClone : NativeFunction where
  name := "clone"
  run args := do
    match ← popFault (·.heap.cloneFaults) (fun w r => { w with heap.cloneFaults := r }) with
    | some o => return (.int 0, ← writeOutcome o)
    | none =>
      let p := pointerOf args
      modify fun w => { w with heap := w.heap.retain p }
      return (.int p, .fresh)

/-- A free function over reference counts; the outcomes scripted for it come first. -/
def countingFree : NativeFunction where
  name := "free"
  run args := do
    match ← popFault (·.heap.freeFaults) (fun w r => { w with heap.freeFaults := r }) with
    | some o => return (.null, ← writeOutcome o)
    | none =>
      modify fun w => { w with heap := w.heap.release (pointerOf args) }
      return (.null, .fresh)

end ForeignBridge
