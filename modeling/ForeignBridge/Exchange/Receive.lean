import ForeignBridge.Object.Lifetime

/-!
Receiving values in the world. A native reference that is read gets a guard of its own; a reference that
is read and then dropped, because the rest could not be read, is destroyed at once.
-/

namespace ForeignBridge

mutual

/-- Gives every reference in a value that was read a guard. -/
def Value.adopt : Value → Act Value
  | .received cls pointer => do return .wrapper cls (← newGuard pointer defaultMaxBorrows)
  | .list items => do return .list (← adoptAll items)
  | .tuple items => do return .tuple (← adoptAll items)
  | .dict entries => do return .dict (← adoptEntries entries)
  | .record cls bases fields => do return .record cls bases (← adoptFields fields)
  | v => return v

def adoptAll : List Value → Act (List Value)
  | [] => return []
  | v :: rest => do
    let v ← v.adopt
    return v :: (← adoptAll rest)

def adoptEntries : List (Value × Value) → Act (List (Value × Value))
  | [] => return []
  | (k, v) :: rest => do
    let k ← k.adopt
    let v ← v.adopt
    return (k, v) :: (← adoptEntries rest)

def adoptFields : List (String × Option Value) → Act (List (String × Option Value))
  | [] => return []
  | (name, some v) :: rest => do
    let v ← v.adopt
    return (name, some v) :: (← adoptFields rest)
  | (name, none) :: rest => do return (name, none) :: (← adoptFields rest)

end

/-- Destroys a guard when its wrapper goes; a failure of that is nobody's. -/
def ObjectType.collect (t : ObjectType) (id : Nat) : Act Unit := do
  let _ ← World.attempt (t.destroy id)
  return

def ObjectType.collectAll (t : ObjectType) (pointers : List Nat) : Act Unit :=
  pointers.forM fun p => do t.collect (← newGuard p defaultMaxBorrows)

/-- Runs a reading in the world, and destroys the references that it dropped. -/
def receiveWith (t : ObjectType) (x : Reading Value) (data : Bytes) : Act Value := fun w =>
  match x (.ofBytes data) with
  | .ok v r => (do t.collectAll r.dropped; v.adopt : Act Value) w
  | .error f r => (do t.collectAll r.dropped; throw f : Act Value) w

/-- Decodes bytes of any shape whose objects are of one type. -/
def Shape.receive (t : ObjectType) (s : Shape) (data : Bytes) : Act Value := do
  let w ← get
  receiveWith t (s.readAll w.lookup) data

/-- The value that the result of a native call stands for. -/
def Shape.liftIn (s : Shape) (v : Value) : Act Value := do
  match s, v with
  | .object cls, v =>
    return .wrapper cls (← newGuard (v.wholeNumber?.getD 0) defaultMaxBorrows)
  | .callback _ _ registry, v =>
    match (← get).lookup registry (v.wholeNumber?.getD 0) with
    | .ok v => return v
    | .error f => throw f
  | s, v =>
    match s.lift v with
    | .ok v => return v
    | .error f => throw f

end ForeignBridge
