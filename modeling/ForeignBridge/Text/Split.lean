/-!
Texts cut at separators.
-/

namespace ForeignBridge.Split

/-- The parts of a text around the first place where a separator stands. -/
def cut? (sep : List Char) (cs : List Char) : Option (List Char × List Char) :=
  if sep.isPrefixOf cs then some ([], cs.drop sep.length)
  else
    match cs with
    | [] => none
    | c :: rest => (cut? sep rest).map fun (before, after) => (c :: before, after)

/-- The parts of a text around the first separators, of which so many count at most. -/
def atMost (sep : List Char) : Nat → List Char → List (List Char)
  | 0, cs => [cs]
  | most + 1, cs =>
    match cut? sep cs with
    | some (before, after) => before :: atMost sep most after
    | none => [cs]

def all (sep : List Char) (cs : List Char) : List (List Char) := atMost sep cs.length cs

def atChar (c : Char) (cs : List Char) : List (List Char) := all [c] cs

def join (sep : List Char) (parts : List (List Char)) : List Char := List.intercalate sep parts

end ForeignBridge.Split
