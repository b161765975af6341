import ForeignBridge.Failure

/-!
Why a text is not read as a document. Most texts that are refused break the rules of their format; of some
one part stands for no value, and that is a failure of its own.
-/

namespace ForeignBridge

inductive Unread
  | malformed
  | failure (why : Failure)
deriving Repr

namespace Unread

def ofUnreadable (why : Unreadable) : Unread := failure (.unreadable why)

end Unread

end ForeignBridge
