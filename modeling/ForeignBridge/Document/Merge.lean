import ForeignBridge.Document.Access
import ForeignBridge.Failure
import ForeignBridge.Value.Equal

/-!
Laying one document over another. Where both have a dictionary under a key the two are merged; elsewhere
the upper document's value counts.
-/

namespace ForeignBridge.Value

mutual

/-- What takes the place of a value when another one is laid over it. -/
def overlay (below above : Value) : Value :=
  match above with
  | dict entries =>
    match below with
    | dict under => dict (overlayEntries under entries)
    | _ => dict entries
  | above => above

/-- Entries with others laid over them: an old key keeps its place, a new one comes last. -/
def overlayEntries (below : List (Value × Value)) : List (Value × Value) → List (Value × Value)
  | [] => below
  | (k, v) :: rest =>
    let merged := match entry? k below with | some old => overlay old v | none => v
    overlayEntries (insertEntry k merged below) rest

end

/-- A value with another one laid over it, where only dictionaries can be: a list takes no entries, and
other values have none. -/
def overlaid (below above : Value) : Except Failure Value :=
  match below, above with
  | dict _, dict _ => .ok (below.overlay above)
  | list _, dict [] => .ok below
  | list _, dict _ => .error (.mismatch .listKey)
  | dict _, above | list _, above => .error (.noAttribute above.qualifiedTypeName "items")
  | below, _ => .error (.noAttribute below.qualifiedTypeName "copy")

end ForeignBridge.Value
