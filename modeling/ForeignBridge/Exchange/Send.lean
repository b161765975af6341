import ForeignBridge.Object.Lifetime

/-!
Sending values into the world. Running the script of a write borrows the objects and registers the
implementations that it meets, in order, and what was done before a failure is not undone.
-/

namespace ForeignBridge

/-- The object types by the names of their classes. -/
abbrev ObjectTypes := String → Option ObjectType

def register (registry : Nat) (v : Value) : Act Int := fun w =>
  match w.registries[registry]? with
  | none => .error (.unknownHandle 0 "") w
  | some table =>
    let (r, table) := table.insert v
    let w := { w with registries := w.registries.set registry table }
    match r with
    | .ok handle => .ok handle w
    | .error f => .error f w

/-- A fresh reference to the object behind a wrapper, and what is done with its pointer. -/
def withReference {α : Type} (types : ObjectTypes) (v : Value) (use : Int → Act α) : Act α :=
  match v with
  | .wrapper cls id =>
    match types cls with
    | some t => t.borrowing id use
    | none => throw (.noAttribute cls "_object_type")
  | v => throw (.noAttribute v.qualifiedTypeName "borrow")

def handleBytes (i : Int) : Act Bytes :=
  match Layout.u64.packInt i with
  | .ok data => return data
  | .error f => throw f

/-- Runs one piece of a script and gives the bytes that it appends. -/
def Piece.run (types : ObjectTypes) : Piece → Act Bytes
  | .raw data => return data
  | .object v => withReference types v handleBytes
  | .callback registry v => do handleBytes (← register registry v)

def runPieces (types : ObjectTypes) : List Piece → Act Bytes
  | [] => return []
  | p :: rest => do
    let front ← p.run types
    return front ++ (← runPieces types rest)

def Script.run (types : ObjectTypes) (s : Script) : Act Bytes := do
  let data ← runPieces types s.pieces
  match s.failure with
  | some f => throw f
  | none => return data

namespace Shape

def send (types : ObjectTypes) (s : Shape) (v : Value) : Act Bytes := do
  ofExcept (s.check v)
  (s.write v).run types

/-- The argument of a native call that a value becomes; handles become numbers. -/
def lowerIn (types : ObjectTypes) (s : Shape) (v : Value) : Act Value := do
  let plain ← ofExcept (s.lower v)
  match s with
  | .object _ => withReference types v fun p => return .int p
  | .callback _ _ registry => return .int (← register registry v)
  | _ => return plain

end Shape

/-- Encodes a value into a fresh buffer, which belongs to the native side from then on. -/
def Allocator.lower (a : Allocator) (types : ObjectTypes) (s : Shape) (v : Value) :
    Act (Option Buffer) := do
  a.copy (← s.send types v)

end ForeignBridge
