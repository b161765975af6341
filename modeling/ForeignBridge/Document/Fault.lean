import ForeignBridge.Document.Access

/-!
What is wrong with a document, and checks that find all of it. A check of several entries reports the
faults of all of them, in their order.
-/

namespace ForeignBridge

inductive Refusal
  | missing
  | notText
  /-- a text, or bytes in place of one, that no sequence of characters is -/
  | notCharacters
  | notWhole
  | unreadableWhole
  /-- a whole number of too many digits, or a float too large for one -/
  | oversizedWhole
  | fractionalWhole
  | notFinite
  | notTruth
  | unreadableTruth
  | tooSmall
  | tooLarge
  | notMapping
  | notSection
  /-- a value of the right type that a rule of its own refuses, with the rule's text -/
  | unfit (text : String)
deriving DecidableEq, Repr, Inhabited

def Refusal.code : Refusal → String
  | missing => "missing"
  | notText => "string_type"
  | notCharacters => "string_unicode"
  | notWhole => "int_type"
  | unreadableWhole => "int_parsing"
  | oversizedWhole => "int_parsing_size"
  | fractionalWhole => "int_from_float"
  | notFinite => "finite_number"
  | notTruth => "bool_type"
  | unreadableTruth => "bool_parsing"
  | tooSmall => "greater_than_equal"
  | tooLarge => "less_than_equal"
  | notMapping => "dict_type"
  | notSection => "model_type"
  | unfit _ => "value_error"

def Refusal.text? : Refusal → Option String
  | unfit text => some ("Value error, " ++ text)
  | _ => none

/-- A refusal with the path of the entry it is about. -/
structure EntryFault where
  path : List String
  why : Refusal
deriving DecidableEq, Repr, Inhabited

/-- The outcome of a check: what was read, or all the faults found. -/
inductive Checked (α : Type)
  | ok (a : α)
  | faults (found : List EntryFault)
deriving DecidableEq, Repr

namespace Checked

def map {α β : Type} (f : α → β) : Checked α → Checked β
  | ok a => ok (f a)
  | faults found => faults found

/-- Both outcomes together; the faults on the left come first. -/
def both {α β : Type} : Checked (α → β) → Checked α → Checked β
  | ok f, ok a => ok (f a)
  | ok _, faults found => faults found
  | faults found, ok _ => faults found
  | faults first, faults second => faults (first ++ second)

instance : Applicative Checked where
  pure := ok
  map := map
  seq f x := both f (x ())

def refuse {α : Type} (why : Refusal) : Checked α := faults [⟨[], why⟩]

/-- The same outcome for an entry that lies under a name. -/
def under {α : Type} (name : String) : Checked α → Checked α
  | ok a => ok a
  | faults found => faults (found.map fun f => ⟨name :: f.path, f.why⟩)

def andThen {α β : Type} (x : Checked α) (f : α → Checked β) : Checked β :=
  match x with
  | ok a => f a
  | faults found => faults found

/-- Checks of the items of a list, all of them. -/
def all {α β : Type} (f : α → Checked β) : List α → Checked (List β)
  | [] => ok []
  | a :: rest => (fun b bs => b :: bs) <$> f a <*> all f rest

end Checked

end ForeignBridge
