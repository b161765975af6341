import ForeignBridge.Log.Line
import ForeignBridge.Value.Basic

/-!
The tree of loggers. A logger lies under the nearest logger whose name, up to a point, its own name starts
with, and at last under the root. It takes its level from above if it has none, and passes records up unless
it is told not to.
-/

namespace ForeignBridge

/-- Where lines go: the standard output, a stream that was given, or a file. -/
inductive Sink
  | standard
  | stream
  | file (path : String)
deriving DecidableEq, Repr, Inhabited

/-- What writes records of its level or above as lines to a sink. -/
structure Handler where
  id : Nat
  sink : Sink
  level : Int
  layout : LineLayout
deriving Repr, Inhabited

structure Logger where
  /-- zero leaves the level to the loggers above -/
  level : Int
  propagates : Bool
  handlers : List Handler
deriving Repr, Inhabited

namespace Logger

def fresh : Logger := ⟨0, true, []⟩

def attach (l : Logger) (h : Handler) : Logger := { l with handlers := l.handlers ++ [h] }

def detach (l : Logger) (id : Nat) : Logger :=
  { l with handlers := l.handlers.filter (·.id != id) }

end Logger

structure LogTree where
  root : Logger
  loggers : List (String × Logger)
deriving Repr, Inhabited

namespace LogTree

def new : LogTree := ⟨⟨Level.warning.number, true, []⟩, []⟩

def isRoot (name : String) : Bool := name == "" || name == "root"

/-- The name of a logger as it gives it itself. -/
def nameOf (name : String) : String := if isRoot name then "root" else name

def get (t : LogTree) (name : String) : Logger :=
  if isRoot name then t.root else (Value.lookup name t.loggers).getD .fresh

def update (t : LogTree) (name : String) (f : Logger → Logger) : LogTree :=
  if isRoot name then { t with root := f t.root }
  else { t with loggers := Value.put name (f (t.get name)) t.loggers }

/-- The tree with a logger of a name in it. -/
def withLogger (t : LogTree) (name : String) : LogTree := t.update name id

/-- Names that the loggers above one can have, the nearest first: what stands before each point, counted from
the end of the name. A point that follows another one does not count, nor does one at the start. -/
def namesAbove (name : String) : List String := go name.toList.reverse
where
  go : List Char → List String
    | '.' :: c :: rest => String.ofList (c :: rest).reverse :: go rest
    | _ :: rest => go rest
    | [] => []

/-- A logger and those above it up to the root. -/
def chain (t : LogTree) (name : String) : List Logger :=
  if isRoot name then [t.root] else go name.length name
where
  go : Nat → String → List Logger
    | 0, _ => [t.root]
    | fuel + 1, name =>
      t.get name ::
        match (namesAbove name).find? fun n => (Value.lookup n t.loggers).isSome with
        | some above => go fuel above
        | none => [t.root]

/-- The first level that is set in a chain. -/
def firstLevel (chain : List Logger) : Int :=
  match chain.find? (·.level != 0) with
  | some l => l.level
  | none => 0

/-- The handlers that a record reaches along a chain. -/
def reached : List Logger → List Handler
  | [] => []
  | l :: above => l.handlers ++ if l.propagates then reached above else []

def enabled (t : LogTree) (name : String) (level : Int) : Bool :=
  0 < level && firstLevel (t.chain name) ≤ level

/-- The handlers that write a record of a level. -/
def receivers (t : LogTree) (name : String) (level : Int) : List Handler :=
  (reached (t.chain name)).filter (·.level ≤ level)

end LogTree

end ForeignBridge
