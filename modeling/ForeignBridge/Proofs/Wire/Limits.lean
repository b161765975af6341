import ForeignBridge.Proofs.Wire.RoundTrip

/-!
What becomes of an encoding when it is decoded. A value that is encoded need not be readable, for the writer does
not ask what the reader asks: that not too many elements take no bytes, that keys are hashable, and that moments
are inside the calendar. Bytes of a value that is not readable are refused for one of these reasons.
-/

namespace ForeignBridge

open Script

namespace Shape

variable {s : Shape} {v : Value} {bs : Bytes}

end Shape

end ForeignBridge
