import ForeignBridge.Text.Split

/-!
Paths of files. A path is a row of names with slashes between them; names that say nothing do not count. One
that starts with a slash starts at the root, which is the first of its names.
-/

namespace ForeignBridge.Path

/-- What stands between the slashes of a path. -/
def pieces (path : String) : List String := (Split.atChar '/' path.toList).map String.ofList

def names (path : String) : List String :=
  (if path.toList.head? = some '/' then ["/"] else []) ++ (pieces path).filter fun n => n ≠ "" && n ≠ "."

def ofNames : List String → String
  | "/" :: rest => "/" ++ "/".intercalate rest
  | names => "/".intercalate names

/-- A path of names as messages show it; the empty one is the directory itself. -/
def shown (names : List String) : String := if names.isEmpty then "." else ofNames names

/-- The part of a path behind its last slash. -/
def lastPart (path : String) : String := (pieces path).getLastD ""

/-- The last point of a name and what follows it, where neither is at an end of the name. -/
def suffix (path : String) : String :=
  let cs := ((names path).getLastD "").toList
  let ending := (cs.reverse.takeWhile (· ≠ '.')).reverse
  let before := cs.length - ending.length
  if ending.isEmpty || before ≤ 1 then "" else String.ofList ('.' :: ending)

end ForeignBridge.Path
