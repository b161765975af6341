import ForeignBridge.Atomic
import ForeignBridge.Native.Outcome

/-!
Guards of native references. A guard counts the borrows of one reference and remembers whether it was
destroyed. The count starts at zero; destroying takes one more than was borrowed, so that the count
falls below zero when nothing holds the reference any more, and the step that takes it there frees.
-/

namespace ForeignBridge

/-- The most borrows that a guard allows if nothing else is said. -/
def defaultMaxBorrows : Int := 2 ^ 63 - 1

structure ObjectGuard where
  pointer : Int
  maxBorrows : Int
  borrows : AtomicNumber
  destroyed : AtomicFlag
deriving DecidableEq, Repr, Inhabited

namespace ObjectGuard

def new (pointer : Int) (maxBorrows : Int) : ObjectGuard := ⟨pointer, maxBorrows, ⟨0⟩, ⟨false⟩⟩

/-- The count of borrows, as far as it can be told. -/
def activeBorrows (g : ObjectGuard) : Int := max g.borrows.value 0

def released (g : ObjectGuard) : Bool := g.borrows.value < 0

/-- Takes a borrow, or says why none can be had. -/
def take (typeName : String) (g : ObjectGuard) : Except Failure ObjectGuard :=
  let current := g.borrows.value
  if current < 0 then .error (.useAfterDestroy typeName g.pointer)
  else if g.maxBorrows ≤ current then .error (.borrowSaturated typeName g.pointer current)
  else .ok { g with borrows := (g.borrows.compareAndSwap current (current + 1)).2 }

/-- Gives a borrow back, and tells whether the reference is to be freed now. -/
def giveBack (g : ObjectGuard) : Bool × ObjectGuard :=
  let (before, borrows) := g.borrows.fetchSub 1
  (before == 0, { g with borrows := borrows })

/-- Marks the guard as destroyed, and tells whether it was not before. -/
def markDestroyed (g : ObjectGuard) : Bool × ObjectGuard :=
  let (first, flag) := g.destroyed.testAndSet
  (first, { g with destroyed := flag })

def text (typeName : String) (g : ObjectGuard) : String :=
  s!"ForeignObjectHandle({typeName}, {pointerText g.pointer}, "
    ++ s!"borrows={g.borrows.value}, destroyed={Value.boolText g.destroyed.isSet})"

end ObjectGuard

/-- The reference counts on the native side, and the outcomes that stand in for counting. -/
structure NativeHeap where
  counts : List (Int × Int)
  frees : List Int
  cloneFaults : FaultScript
  freeFaults : FaultScript
deriving Inhabited

namespace NativeHeap

/-- Adds to the count of a pointer, which is zero before anything is known of it. Pointers stand in
ascending order. -/
def add (pointer amount : Int) : List (Int × Int) → List (Int × Int)
  | [] => [(pointer, amount)]
  | (p, n) :: rest =>
    if p = pointer then (p, n + amount) :: rest
    else if pointer < p then (pointer, amount) :: (p, n) :: rest
    else (p, n) :: add pointer amount rest

def retain (h : NativeHeap) (pointer : Int) : NativeHeap := { h with counts := add pointer 1 h.counts }

def release (h : NativeHeap) (pointer : Int) : NativeHeap :=
  { h with counts := add pointer (-1) h.counts, frees := h.frees ++ [pointer] }

end NativeHeap

end ForeignBridge
