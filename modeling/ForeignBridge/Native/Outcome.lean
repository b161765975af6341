import ForeignBridge.Memory.Arena
import ForeignBridge.Wire.Layout

/-!
What a native function reports. A call status holds a code, 0 for success, 1 for a declared error and 2
for a fault, and a buffer that describes the error. Outcomes are what a scripted native side reports.
-/

namespace ForeignBridge

structure CallStatus where
  code : Int
  error : Buffer
deriving DecidableEq, Repr, Inhabited

namespace CallStatus

def fresh : CallStatus := ⟨0, .null⟩

def success : Int := 0

def declaredError : Int := 1

def unexpectedError : Int := 2

def text (s : CallStatus) : String :=
  s!"RustCallStatus(code={s.code}, error_buf={s.error.text})"

end CallStatus

inductive Payload
  | none
  | data (bytes : Bytes)
  | unbacked (length : Nat)
deriving DecidableEq, Repr, Inhabited

structure NativeOutcome where
  code : Int
  payload : Payload
deriving DecidableEq, Repr, Inhabited

namespace NativeOutcome

/-- Writes the outcome into a status. The code is held in one signed byte. -/
def write (o : NativeOutcome) (a : Arena) : CallStatus × Arena :=
  let code := signedOf 1 (residueOf 1 o.code)
  match o.payload with
  | .none => (⟨code, .null⟩, a)
  | .data bytes =>
    let (b, a) := a.place bytes
    (⟨code, b⟩, a)
  | .unbacked n => (⟨code, ⟨n, n, Option.none⟩⟩, a)

end NativeOutcome

/-- The outcomes that stand in for the next calls of a function: at each call one is taken, and `none`
lets the function do its work. -/
abbrev FaultScript := List (Option NativeOutcome)

end ForeignBridge
