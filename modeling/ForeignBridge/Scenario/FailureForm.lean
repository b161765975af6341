import ForeignBridge.Failure
import ForeignBridge.Document.Access
import ForeignBridge.Text.Split

/-!
Failures written as documents: the kind of error and what it says, and for a document that does not fit its
model all that is wrong with it.
-/

namespace ForeignBridge.FailureForm

/-- A text up to where it lists something in braces. -/
def beforeListing (s : String) : String :=
  match Split.cut? ": \x7b".toList s.toList with
  | some (before, _) => String.ofList before
  | none => s

def fault (e : EntryFault) : Value :=
  .ofMembers ([("loc", .list (e.path.map .text)), ("type", .text e.why.code)]
    ++ (e.why.text?.map fun t => ("msg", .text (beforeListing t))).toList)

def members (f : Failure) : List (String × Value) :=
  match f with
  | .packing _ => [("error", .text "struct.error")]
  | .notSettings => [("error", .text f.className)]
  | .raised (.exception "KeyError" _ text) => [("error", .text f.className), ("message", .text text)]
  | .invalidDocument model found =>
    [("error", .text f.className), ("model", .text model), ("errors", .list (found.map fault))]
  | f => [("error", .text f.className), ("message", .text f.message)]

end ForeignBridge.FailureForm
