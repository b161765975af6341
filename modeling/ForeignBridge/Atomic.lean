/-!
Cells that change in one step: a number that is swapped if it is what one expects, and a flag that is
set once.
-/

namespace ForeignBridge

structure AtomicNumber where
  value : Int
deriving DecidableEq, Repr, Inhabited

namespace AtomicNumber

/-- Puts the new number in if the cell holds the expected one, and tells whether it did. -/
def compareAndSwap (c : AtomicNumber) (expected new : Int) : Bool × AtomicNumber :=
  if c.value = expected then (true, ⟨new⟩) else (false, c)

def fetchSub (c : AtomicNumber) (amount : Int) : Int × AtomicNumber :=
  (c.value, (c.compareAndSwap c.value (c.value - amount)).2)

def quoted (c : AtomicNumber) : String := s!"AtomicInteger({c.value})"

end AtomicNumber

structure AtomicFlag where
  isSet : Bool
deriving DecidableEq, Repr, Inhabited

namespace AtomicFlag

/-- Sets the flag, and tells whether it was this call that did. -/
def testAndSet (f : AtomicFlag) : Bool × AtomicFlag := (!f.isSet, ⟨true⟩)

end AtomicFlag

end ForeignBridge
