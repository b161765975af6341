import ForeignBridge.Memory.Allocator

/-!
Received buffers in use. Whoever holds one may view it, read it and release it, and each of these goes by whether it
was released before. To consume it is to do something with a reader over it that must end where the buffer does;
the buffer is released in the end, whatever came of that, unless that released it.
-/

namespace ForeignBridge

/-- A received buffer and the world in which it is held. -/
structure Holding where
  buffer : ReceivedBuffer
  world : World

/-- Something done with a received buffer; on failure the buffer and the world are as they were left. -/
abbrev Held := EStateM Failure Holding

/-- What is done inside a consumption, which goes on from what came of each step. -/
inductive Consumption (α : Type)
  | finish (result : α)
  | fail (failure : Failure)
  /-- looks at where the reader stands -/
  | look (next : Reader → Consumption α)
  | read (shape : Shape) (next : Except Failure Value → Consumption α)
  /-- releases the buffer under the reader, which stays usable -/
  | release (next : Except Failure Unit → Consumption α)

namespace Held

variable {α : Type}

/-- Runs an action in the world. -/
def inWorld (x : Act α) : Held α := fun h =>
  match x h.world with
  | .ok a w => .ok a { h with world := w }
  | .error e w => .error e { h with world := w }

def view : Held Bytes := do
  inWorld (← get).buffer.view

def reader : Held Reader := do
  return .ofBytes (← view)

/-- Releases the buffer, unless it was released before. It counts as released even if freeing fails. -/
def release (free : Buffer → Act Unit) : Held Unit := do
  let buffer := (← get).buffer
  if buffer.released then return ()
  modify fun h => { h with buffer := { buffer with released := true } }
  inWorld (releaseWith free buffer.raw)

end Held

namespace Consumption

variable {α : Type}

/-- Runs what is done inside a consumption, and gives the reader as it was left. -/
def run (free : Buffer → Act Unit) : Consumption α → Reader → Held (α × Reader)
  | finish a, r => return (a, r)
  | fail f, _ => throw f
  | look next, r => (next r).run free r
  | read s next, r => do
    let impls := (← get).world.lookup
    match s.read impls r with
    | .ok v r => (next (.ok v)).run free r
    | .error f r => (next (.error f)).run free r
  | release next, r => do
    let released ← observing (Held.release free)
    (next released).run free r

/-- Reads values of shapes in a row, and goes on with them. -/
def reads (next : List Value → Consumption α) : List Shape → Consumption α
  | [] => next []
  | s :: rest => read s fun
    | .ok v => reads (fun vs => next (v :: vs)) rest
    | .error f => fail f

end Consumption

namespace Held

variable {α : Type}

/-- Consumes the buffer: every byte must be read, and it is released at the end. -/
def consume (free : Buffer → Act Unit) (typeName : Option String) (body : Consumption α) : Held α := do
  let r ← reader
  let consumed : Held α := do
    let (a, r) ← body.run free r
    if r.remaining ≠ 0 then throw (.trailing r.remaining typeName)
    return a
  tryFinally consumed (release free)

end Held

end ForeignBridge
