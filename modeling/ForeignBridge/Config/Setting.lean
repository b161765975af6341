import ForeignBridge.Document.Entry
import ForeignBridge.Log.Entry

/-!
Settings. A setting knows whether it was set or is there by default. The settings of a section are read
from a document and listed again as one, in full or as far as they were set.
-/

namespace ForeignBridge

structure Setting (α : Type) where
  value : α
  explicit : Bool
deriving DecidableEq, Repr, Inhabited

namespace Setting

def byDefault {α : Type} (a : α) : Setting α := ⟨a, false⟩

def set {α : Type} (a : α) : Setting α := ⟨a, true⟩

/-- The setting that a document gives under a name. -/
def read {α : Type} (doc : Value) (name : String) (absent : α) (entry : Value → Checked α) :
    Checked (Setting α) :=
  match doc.field? name with
  | none => .ok (byDefault absent)
  | some v => ((entry v).under name).map set

end Setting

/-- A listed setting: its name, whether it was set, its whole value, and as much of it as was set. -/
structure Listed where
  name : String
  explicit : Bool
  whole : Value
  asSet : Value

namespace Listed

def plain (name : String) (explicit : Bool) (v : Value) : Listed := ⟨name, explicit, v, v⟩

def ofText (name : String) (s : Setting String) : Listed := plain name s.explicit (.text s.value)

def optionalText : Option String → Value
  | none => .null
  | some s => .text s

def ofOptionalText (name : String) (s : Setting (Option String)) : Listed :=
  plain name s.explicit (optionalText s.value)

def ofWhole (name : String) (s : Setting Int) : Listed := plain name s.explicit (.int s.value)

def ofTruth (name : String) (s : Setting Bool) : Listed := plain name s.explicit (.bool s.value)

def document (settings : List Listed) : Value := .ofMembers (settings.map fun s => (s.name, s.whole))

def setDocument (settings : List Listed) : Value :=
  .ofMembers ((settings.filter (·.explicit)).map fun s => (s.name, s.asSet))

end Listed

end ForeignBridge
