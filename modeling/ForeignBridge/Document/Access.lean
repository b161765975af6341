import ForeignBridge.Value.Basic

/-!
Looking into documents. A document is a value built from null, truth values, numbers, texts, lists and
dictionaries with texts as keys; what is looked for and is not there reads as nothing, as empty or as
zero.
-/

namespace ForeignBridge.Value

def field? (v : Value) (name : String) : Option Value :=
  match v with
  | dict entries =>
    (entries.find? fun e => match e.1 with | text s => s == name | _ => false).map Prod.snd
  | _ => none

/-- The entry of a dictionary under a text, if it is there and not null. -/
def given? (v : Value) (name : String) : Option Value :=
  match v.field? name with
  | none | some null => none
  | some a => some a

def field (v : Value) (name : String) : Value := (v.field? name).getD null

def asText : Value → String
  | text s | halved s => s
  | _ => ""

def asText? : Value → Option String
  | text s | halved s => some s
  | _ => none

/-- A text without regard to the halves of surrogate pairs in it. -/
def unhalved : Value → Value
  | halved s => text s
  | v => v

def textField (v : Value) (name : String) : String := (v.field name).asText

def asItems : Value → List Value
  | list items => items
  | _ => []

def itemsField (v : Value) (name : String) : List Value := (v.field name).asItems

def isTrue : Value → Bool
  | bool b => b
  | _ => false

/-- The members of a dictionary whose keys are texts. -/
def asMembers : Value → List (String × Value)
  | dict entries => entries.map fun e => (e.1.asText, e.2)
  | _ => []

/-- The items of a list that are pairs of a text and a value. -/
def asPairs (v : Value) : List (String × Value) :=
  v.asItems.filterMap fun e =>
    match e with
    | list [text k, a] => some (k, a)
    | _ => none

def ofMembers (members : List (String × Value)) : Value := dict (members.map fun e => (text e.1, e.2))

mutual

/-- How many levels of lists and dictionaries a document has. -/
def depth : Value → Nat
  | list items | tuple items => depthAll items + 1
  | dict entries => depthEntries entries + 1
  | _ => 1

def depthAll : List Value → Nat
  | [] => 0
  | v :: rest => max v.depth (depthAll rest)

def depthEntries : List (Value × Value) → Nat
  | [] => 0
  | e :: rest => max e.2.depth (depthEntries rest)

end

end ForeignBridge.Value
