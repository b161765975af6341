import ForeignBridge.Failure

/-!
Native memory as buffers that are numbered in the order of their making. A buffer is freed once; its
bytes stay readable after that, as the memory of a freed buffer may.
-/

namespace ForeignBridge

/-- A region of native memory; `data` is the number of the buffer it lies in, if it lies anywhere. -/
structure Buffer where
  capacity : Nat
  len : Nat
  data : Option Nat
deriving DecidableEq, Repr, Inhabited

namespace Buffer

def null : Buffer := ⟨0, 0, none⟩

def isEmpty (b : Buffer) : Bool := b.len == 0 || b.data.isNone

/-- An address is not part of a buffer's description: one that is not null is written as a word. -/
def text (b : Buffer) : String :=
  let address := if b.data.isSome then "0xADDR" else "0x0"
  s!"RustBuffer(capacity={b.capacity}, len={b.len}, data={address})"

end Buffer

structure Arena where
  /-- the bytes of every buffer made, the first at the front -/
  contents : List Bytes
  live : List Nat
  /-- the numbers freed, in order; freeing a null buffer counts as 0 -/
  freed : List Nat
  /-- how many copies were asked for so far, and which of them are refused -/
  copies : Nat
  refusals : List Nat
deriving Inhabited

namespace Arena

def new (refusals : List Nat) : Arena := ⟨[], [], [], 0, refusals⟩

/-- The bytes of a buffer by its number, which counts from one. -/
def bytesOf (a : Arena) (number : Nat) : Bytes := a.contents.getD (number - 1) []

def place (a : Arena) (data : Bytes) : Buffer × Arena :=
  let number := a.contents.length + 1
  (⟨max data.length 1, data.length, some number⟩,
    { a with contents := a.contents ++ [data], live := a.live ++ [number] })

def zeros (a : Arena) (size : Nat) : Buffer × Arena := a.place (List.replicate size 0)

/-- A new buffer that holds a copy, unless this copy is one of those refused. -/
def copy (a : Arena) (data : Bytes) : Except Failure Buffer × Arena :=
  let a := { a with copies := a.copies + 1 }
  if a.refusals.contains a.copies then (.error .noBuffersLeft, a)
  else
    let (b, a) := a.place data
    (.ok b, a)

/-- Frees a buffer, which must be live or null. -/
def free (a : Arena) (b : Buffer) : Except Failure Unit × Arena :=
  match b.data with
  | none => (.ok (), { a with freed := a.freed ++ [0] })
  | some n =>
    if a.live.contains n then
      (.ok (), { a with live := a.live.erase n, freed := a.freed ++ [n] })
    else (.error .unknownBuffer, a)

def view (a : Arena) (b : Buffer) : Bytes :=
  match b.data with
  | none => []
  | some n => (a.bytesOf n).take b.len

def outstanding (a : Arena) : Nat := a.live.length

end Arena

end ForeignBridge
