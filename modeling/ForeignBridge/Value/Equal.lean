import ForeignBridge.Value.Basic

/-!
Equality of values as keys have it: numbers by value whatever their type, moments by instant, records
by class and fields, and things by identity. Lists, dictionaries and records cannot be keys.
-/

namespace ForeignBridge.Value

/-- The number that a value is: truth values count as 0 and 1. -/
def wholeNumber? : Value → Option Int
  | bool b => some (if b then 1 else 0)
  | int i => some i
  | _ => none

def sameMoment (a b : Moment) : Bool :=
  match a.instant?, b.instant? with
  | some x, some y => x == y
  | none, none => a.wallMicros == b.wallMicros
  | _, _ => false

mutual

def same : Value → Value → Bool
  | null, v => match v with | null => true | _ => false
  | bool a, v =>
    match v with
    | bool b => a == b
    | int i => (if a then 1 else 0) == i
    | float x => x.eqInt (if a then 1 else 0)
    | _ => false
  | int a, v =>
    match v with
    | bool b => a == (if b then 1 else 0)
    | int i => a == i
    | float x => x.eqInt a
    | _ => false
  | float a, v =>
    match v with
    | bool b => a.eqInt (if b then 1 else 0)
    | int i => a.eqInt i
    | float x => a.numEq x
    | _ => false
  | text a, v => match v with | text b => a == b | _ => false
  | halved a, v => match v with | halved b => a == b | _ => false
  | bytes _ a, v => match v with | bytes _ b => a == b | _ => false
  | list xs, v => match v with | list ys => sameAll xs ys | _ => false
  | tuple xs, v => match v with | tuple ys => sameAll xs ys | _ => false
  | dict xs, v =>
    match v with | dict ys => xs.length == ys.length && sameEntries xs ys | _ => false
  | moment a, v => match v with | moment b => sameMoment a b | _ => false
  | date a, v => match v with | date b => a == b | _ => false
  | span a, v => match v with | span b => a == b | _ => false
  | record c _ xs, v => match v with | record d _ ys => c == d && sameFields xs ys | _ => false
  | member e n _, v => match v with | member f m _ => e == f && n == m | _ => false
  | declared k m, v => match v with | declared l n => k == l && m.same n | _ => false
  | exception .., _ => false
  | thing c n, v => match v with | thing d m => c == d && n == m | _ => false
  | wrapper c n, v => match v with | wrapper d m => c == d && n == m | _ => false
  | received .., _ => false
  | implementation _ n _, v => match v with | implementation _ m _ => n == m | _ => false

def sameAll : List Value → List Value → Bool
  | [], [] => true
  | x :: xs, y :: ys => x.same y && sameAll xs ys
  | _, _ => false

/-- Whether every entry on the left has an equal one on the right, in any order. -/
def sameEntries : List (Value × Value) → List (Value × Value) → Bool
  | [], _ => true
  | (k, v) :: rest, ys => ys.any (fun y => k.same y.1 && v.same y.2) && sameEntries rest ys

def sameFields : List (String × Option Value) → List (String × Option Value) → Bool
  | [], [] => true
  | (n, some v) :: rest, (m, some w) :: ys => n == m && v.same w && sameFields rest ys
  | (n, none) :: rest, (m, none) :: ys => n == m && sameFields rest ys
  | _, _ => false

end

mutual

/-- The type that keeps a value from being a key, if there is one. -/
def unhashable? : Value → Option String
  | list items => some (list items).typeName
  | dict entries => some (dict entries).typeName
  | record cls _ _ => some cls
  | bytes .growable data => some (bytes .growable data).typeName
  | tuple items => unhashableIn? items
  | declared _ message => message.unhashable?
  | _ => none

def unhashableIn? : List Value → Option String
  | [] => none
  | v :: rest => match v.unhashable? with | some name => some name | none => unhashableIn? rest

end

/-- Inserts an entry: an equal key keeps its place and its first form, and takes the new value. -/
def insertEntry (k v : Value) : List (Value × Value) → List (Value × Value)
  | [] => [(k, v)]
  | (k', v') :: rest => if k'.same k then (k', v) :: rest else (k', v') :: insertEntry k v rest

def entry? (k : Value) : List (Value × Value) → Option Value
  | [] => none
  | (k', v) :: rest => if k'.same k then some v else entry? k rest

def ofEntries (entries : List (Value × Value)) : Value :=
  dict (entries.foldl (fun es e => insertEntry e.1 e.2 es) [])

end ForeignBridge.Value
