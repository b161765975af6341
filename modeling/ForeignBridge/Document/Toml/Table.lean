import ForeignBridge.Document.Toml.Text
import ForeignBridge.Value.Equal
import ForeignBridge.Document.Access

/-!
Tables that a TOML text fills, and ways into them. A way leads from table to table by names; where it meets
something else than a table the failure is that of asking such a value for a name.
-/

namespace ForeignBridge.Toml

/-- A value was used as what it is not. -/
def misused {α : Type} (why : Mismatch) : Except Unread α := .error (.failure (.mismatch why))

/-- Whether a value holds a name: a table as a key, a list as an item, a text as a part of it. -/
def holds (v : Value) (name : String) : Except Unread Bool :=
  match v with
  | .dict entries => .ok (Value.entry? (.text name) entries).isSome
  | .list items => .ok (items.any fun i => i.same (.text name))
  | .text s | .halved s => .ok (Split.cut? name.toList s.toList).isSome
  | v => misused (.notIterable v.qualifiedTypeName)

/-- Why a value that is no table has nothing under a name. -/
def noItem (v : Value) : Mismatch :=
  match v with
  | .list _ => .listKey
  | .text _ | .halved _ => .textKey
  | v => .notSubscriptable v.qualifiedTypeName

/-- What a value has under a name; `none` if a table lacks the name. -/
def item? (v : Value) (name : String) : Except Mismatch (Option Value) :=
  match v with
  | .dict entries => .ok (Value.entry? (.text name) entries)
  | v => .error (noItem v)

/-- A table with a value put under a name. -/
def withItem (v : Value) (name : String) (a : Value) : Except Unread Value :=
  match v with
  | .dict entries => .ok (.dict (Value.insertEntry (.text name) a entries))
  | .list _ => misused .listKey
  | v => misused (.noItems v.qualifiedTypeName)

/-- The last item of a list or of a text; `none` for a table, which has no last one. -/
def last? (v : Value) : Except Unread (Option Value) :=
  match v with
  | .list items => (items.getLast?).elim (.error (.failure (.pastEnd "list"))) (.ok ∘ some)
  | .text s | .halved s => (s.toList.getLast?).elim pastText fun c => .ok (some (.ofChar c))
  | .dict _ => .ok none
  | v => misused (.notSubscriptable v.qualifiedTypeName)

inductive Step
  | name (key : String)
  | last
deriving DecidableEq, Repr

abbrev Way := List Step

/-- The value at the end of a way; a way that leads nowhere ends in nothing. -/
def Way.find : Way → Value → Value
  | [], v => v
  | .name key :: rest, v => Way.find rest ((v.field? key).getD .null)
  | .last :: rest, v =>
    match v with
    | .list items => Way.find rest (items.getLastD .null)
    | .text s | .halved s => (s.toList.getLast?.map .ofChar).getD (.text "")
    | v => Way.find rest v

/-- The value with the one at the end of a way replaced. -/
def Way.put (a : Value) : Way → Value → Value
  | [], _ => a
  | .name key :: rest, v =>
    match v with
    | .dict entries =>
      .dict (Value.insertEntry (.text key) (Way.put a rest ((v.field? key).getD .null)) entries)
    | v => v
  | .last :: rest, v =>
    match v with
    | .list items => .list (items.dropLast ++ [Way.put a rest (items.getLastD .null)])
    | v => v

/-- Follows names into a value, making tables where there are none, and does something at their end. -/
def inside {α : Type} (f : Value → Except Unread (Value × α)) :
    List String → Value → Except Unread (Value × α)
  | [], v => f v
  | name :: rest, v => do
    let v ← if ← holds v name then pure v else withItem v name (.dict [])
    match item? v name with
    | .error why => misused why
    | .ok found =>
      let (a, x) ← inside f rest (found.getD .null)
      return (← withItem v name a, x)

end ForeignBridge.Toml
