import ForeignBridge.Proofs.Calendar.Gregorian
import ForeignBridge.Proofs.Wire.Moments

/-!
Instants in order. What is sent of a moment is how many nanoseconds it lies after the first of 1970, or before it, as
whole seconds that are rounded down and the nanoseconds past them. So two moments are sent alike just if they are the
same instant, and of two instants the earlier one has the lesser seconds, or the same seconds and less past them.
-/

namespace ForeignBridge

variable {t u : Moment} {offset offset' i j n : Int}

namespace Moment

end Moment

/-- What is sent of a moment: seconds from the first of 1970, and nanoseconds past them. -/
structure Stamp where
  seconds : Int
  nanos : Int

namespace Stamp

def bytes (a : Stamp) : Bytes := Layout.i64.numeral a.seconds ++ Layout.u32.numeral a.nanos

def fields (a : Stamp) : List Int := [a.seconds, a.nanos]

def total (a : Stamp) : Int := a.seconds * 10 ^ 9 + a.nanos

/-- A stamp that fits on the wire, of whole microseconds. -/
structure Fits (a : Stamp) : Prop where
  seconds : Layout.i64.Holds a.seconds
  low : 0 ≤ a.nanos
  high : a.nanos < 10 ^ 9
  micros : 1000 ∣ a.nanos

variable {a b : Stamp}

end Stamp

namespace Moment

end Moment

namespace Shape

open Moment

end Shape

end ForeignBridge
