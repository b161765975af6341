import ForeignBridge.Number.Shortest
import ForeignBridge.Calendar
import ForeignBridge.Text.Surrogate

/-!
The values that cross the boundary on the managed side, with the names of their types. A value says of
itself all that a converter may ask: a record knows its class and the classes above it, an enum member
its enum, and an error its kind.
-/

namespace ForeignBridge

abbrev Bytes := List UInt8

/-- Which holder of bytes a value is; all three are bytes-like and only the first can be a key. -/
inductive ByteHolder
  | frozen
  | growable
  | view
deriving DecidableEq, Repr, Inhabited

/-- Where an exception stands among the families that the boundary tells apart. -/
inductive Family
  | ordinary
  | contract
  | nativeFault
  /-- a request to stop, which no handler of errors intercepts -/
  | unwinding
deriving DecidableEq, Repr, Inhabited

inductive Value
  | null
  | bool (b : Bool)
  | int (i : Int)
  | float (x : Double)
  | text (s : String)
  /-- a text with halves of surrogate pairs, each kept as the private character that stands for it -/
  | halved (s : String)
  | bytes (holder : ByteHolder) (data : Bytes)
  | list (items : List Value)
  | tuple (items : List Value)
  | dict (entries : List (Value × Value))
  | moment (t : Moment)
  | date (d : Date)
  | span (s : Span)
  /-- an instance of a record class, with the classes above it and the fields that it declares, of which some
  may have no value -/
  | record (cls : String) (bases : List String) (fields : List (String × Option Value))
  | member (enum name : String) (value : Value)
  | declared (kind : String) (message : Value)
  /-- any other exception: its class, its family and its text -/
  | exception (cls : String) (family : Family) (message : String)
  /-- an instance of a class that no converter knows; `serial` tells instances apart -/
  | thing (cls : String) (serial : Nat)
  /-- a wrapper of a native object, known to the session by a number -/
  | wrapper (cls : String) (id : Nat)
  /-- a native reference just read, which the reader's side now owns -/
  | received (cls : String) (pointer : Nat)
  /-- an implementation of callback interfaces, with the attributes that can be called -/
  | implementation (cls : String) (id : Nat) (callable : List String)
deriving Inhabited, Repr

namespace Value

def typeName : Value → String
  | null => "NoneType"
  | bool _ => "bool"
  | int _ => "int"
  | float _ => "float"
  | text _ | halved _ => "str"
  | bytes .frozen _ => "bytes"
  | bytes .growable _ => "bytearray"
  | bytes .view _ => "memoryview"
  | list _ => "list"
  | tuple _ => "tuple"
  | dict _ => "dict"
  | moment _ => "datetime"
  | date _ => "date"
  | span _ => "timedelta"
  | record cls _ _ => cls
  | member enum _ _ => enum
  | declared kind _ => kind
  | exception cls _ _ => cls
  | thing cls _ => cls
  | wrapper cls _ => cls
  | received cls _ => cls
  | implementation cls _ _ => cls

/-- The name of a value's type with the package that defines it, as some messages give it. -/
def qualifiedTypeName : Value → String
  | moment _ => "datetime.datetime"
  | date _ => "datetime.date"
  | span _ => "datetime.timedelta"
  | v => v.typeName

/-- The first entry of a name in a list of named things. -/
def lookup {α : Type} (name : String) : List (String × α) → Option α
  | [] => none
  | (n, a) :: rest => if n = name then some a else lookup name rest

/-- Puts a value under a name: at its place if the name is there, else at the end. -/
def put {α : Type} (name : String) (a : α) : List (String × α) → List (String × α)
  | [] => [(name, a)]
  | (n, b) :: rest => if n = name then (n, a) :: rest else (n, b) :: put name a rest

def attribute? (v : Value) (name : String) : Option Value :=
  let named (attributes : List (String × Value)) : Option Value := lookup name attributes
  let number (real imaginary : Value) : List (String × Value) := [("real", real), ("imag", imaginary)]
  let whole (i : Int) : Option Value :=
    named (number (int i) (int 0) ++ [("numerator", int i), ("denominator", int 1)])
  match v with
  | bool b => whole (if b then 1 else 0)
  | int i => whole i
  | float x => named (number (float x) (float (.ofRatio false 0 1)))
  | record _ _ fields => (lookup name fields).join
  | declared _ message => named [("message", message), ("args", tuple [message])]
  | exception _ _ message => named [("args", tuple [text message])]
  | member _ n value => named [("name", text n), ("value", value)]
  | moment t =>
    named [("year", int t.year), ("month", int t.month), ("day", int t.day), ("hour", int t.hour),
      ("minute", int t.minute), ("second", int t.second), ("microsecond", int t.microsecond), ("fold", int 0)]
  | date d => named [("year", int d.year), ("month", int d.month), ("day", int d.day)]
  | span s =>
    named [("days", int s.days), ("seconds", int s.seconds), ("microseconds", int s.microseconds)]
  | _ => none

/-- Characters as a value: a text, or one with halves if some of them stand for halves. -/
def ofText (s : String) : Value := if Surrogate.occursIn s.toList then halved s else text s

/-- The text of one character of a text with halves. -/
def ofChar (c : Char) : Value :=
  if Surrogate.occursIn [c] then halved c.toString else text c.toString

/-- Whether a value counts as true: all but nothing, zeros, and what is empty. -/
def truthy : Value → Bool
  | null => false
  | bool b => b
  | int i => i != 0
  | float x => !x.isZero
  | text s | halved s => !s.isEmpty
  | bytes _ data => !data.isEmpty
  | list items | tuple items => !items.isEmpty
  | dict entries => !entries.isEmpty
  | span s => s.micros != 0
  | _ => true

end Value

end ForeignBridge
