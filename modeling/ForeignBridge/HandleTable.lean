import ForeignBridge.Failure

/-!
Tables that hand out numbers for things of the managed side. Numbers ascend from a first one and are
never given twice; a number past 64 bits is not given at all.
-/

namespace ForeignBridge

def maxHandle : Int := 2 ^ 64 - 1

structure HandleTable (α : Type) where
  name : String
  next : Int
  /-- the live handles, in the order in which they were given -/
  entries : List (Int × α)

namespace HandleTable

variable {α : Type}

def new (name : String) (first : Int) : HandleTable α := ⟨name, first, []⟩

/-- Gives the next number. It is used up even where the numbers have run out. -/
def insert (t : HandleTable α) (a : α) : Except Failure Int × HandleTable α :=
  let after := { t with next := t.next + 1 }
  if maxHandle < t.next then (.error (.handlesExhausted t.name), after)
  else (.ok t.next, { after with entries := t.entries ++ [(t.next, a)] })

def find? (t : HandleTable α) (handle : Int) : Option α :=
  (t.entries.find? (·.1 == handle)).map Prod.snd

def get (t : HandleTable α) (handle : Int) : Except Failure α :=
  match t.find? handle with
  | some a => .ok a
  | none => .error (.unknownHandle handle t.name)

def remove (t : HandleTable α) (handle : Int) : Except Failure α × HandleTable α :=
  (t.get handle, { t with entries := t.entries.filter (·.1 != handle) })

def contains (t : HandleTable α) (handle : Int) : Bool := (t.find? handle).isSome

def handles (t : HandleTable α) : List Int := t.entries.map Prod.fst

def size (t : HandleTable α) : Nat := t.entries.length

/-- Drops every entry and tells how many there were. -/
def clear (t : HandleTable α) : Nat × HandleTable α := (t.size, { t with entries := [] })

end HandleTable

end ForeignBridge
