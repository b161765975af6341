import ForeignBridge.Wire.Layout

/-!
A reader walks over bytes that it does not own. Reading may fail at any point, and the reader keeps the
position it had reached. A reader also remembers the native references that were read and then dropped
before the whole value was there, in the order in which they were dropped.
-/

namespace ForeignBridge

structure Reader where
  source : Array UInt8
  position : Int
  released : Bool
  dropped : List Nat
deriving Inhabited

namespace Reader

def ofBytes (bs : Bytes) : Reader := ⟨bs.toArray, 0, false, []⟩

def size (r : Reader) : Nat := r.source.size

def remaining (r : Reader) : Int := r.size - r.position

/-- An index into the source, counted from the end if negative and held inside. -/
def clamp (r : Reader) (i : Int) : Nat :=
  if i < 0 then (i + r.size).toNat else min i.toNat r.size

def slice (r : Reader) (start stop : Int) : Bytes :=
  (r.source.extract (r.clamp start) (r.clamp stop)).toList

end Reader

/-- A computation that reads; on failure the reader stays where the failure found it. -/
abbrev Reading := EStateM Failure Reader

namespace Reading

/-- Takes the next bytes; a negative count moves the position back. -/
def take (count : Int) : Reading Bytes := fun r =>
  if r.released then .error .readerReleased r
  else if r.remaining < count then .error (.underflow count r.remaining) r
  else
    let stop := r.position + count
    .ok (r.slice r.position stop) { r with position := stop }

/-- The bytes left, which a released reader does not tell. -/
def remaining : Reading Int := fun r =>
  if r.released then .error .readerReleased r else .ok r.remaining r

/-- Takes the bytes of one scalar. A position before the start counts from the end of the source. -/
def takeScalar (l : Layout) : Reading Bytes := fun r =>
  if r.released then .error .readerReleased r
  else if r.remaining < l.size then .error (.underflow l.size r.remaining) r
  else
    let start := if r.position < 0 then r.position + r.size else r.position
    if start < 0 ∨ (r.size : Int) < start + l.size then
      .error (.packing s!"unpack_from requires a buffer of at least {r.position + l.size} bytes") r
    else
      .ok (r.slice start (start + l.size)) { r with position := r.position + l.size }

def scalar (l : Layout) : Reading Value := l.unpack <$> takeScalar l

def int (l : Layout) : Reading Int := l.unpackInt <$> takeScalar l

def drop (pointers : List Nat) : Reading Unit :=
  modify fun r => { r with dropped := r.dropped ++ pointers }

/-- Runs a reading, and on failure drops what had been read before it. -/
def orDrop {α : Type} (x : Reading α) (held : Unit → List Nat) : Reading α := fun r =>
  match x r with
  | .ok a r => .ok a r
  | .error e r => .error e { r with dropped := r.dropped ++ held () }

/-- What a reading gives, without where it leaves the reader. -/
def value {α : Type} (x : Reading α) (r : Reader) : Except Failure α :=
  match x r with
  | .ok a _ => .ok a
  | .error e _ => .error e

end Reading

end ForeignBridge
