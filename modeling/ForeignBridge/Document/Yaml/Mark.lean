import ForeignBridge.Document.Yaml.Cursor
import ForeignBridge.Text.Hex
import ForeignBridge.Text.Utf8

/-!
The marks that stand before YAML nodes and documents: names of anchors, tags, and directives.
-/

namespace ForeignBridge.Yaml

def isNameChar (c : Char) : Bool := c.isAlphanum || c = '-' || c = '_'

/-- A tag as it is written: a handle, which stands for a beginning, and the rest. -/
structure WrittenTag where
  handle : Option String
  rest : String
deriving DecidableEq, Repr, Inhabited

inductive Directive
  | version (major : Nat)
  | tag (handle start : String)
  | other
deriving DecidableEq, Repr, Inhabited

namespace Scan

/-- The name of an anchor or an alias, with the sign before it. -/
def name : Scan String := do
  skip 1
  let cs ← takeWhile isNameChar
  let ends := (← next).all fun c => isSpaceOrTab c || isBreak c || "?:,]\x7d%@`".toList.contains c
  if cs.isEmpty || !ends then malformed else return String.ofList cs

/-- Bytes that are written as percent signs with two digits. -/
def percentBytes : Nat → Bytes → Scan Bytes
  | 0, _ => malformed
  | fuel + 1, sofar => do
    match (← get).rest with
    | '%' :: h :: l :: _ =>
      match Hex.number? [h, l] with
      | some n =>
        skip 3
        percentBytes fuel (UInt8.ofNat n :: sofar)
      | none => malformed
    | '%' :: _ => malformed
    | _ => return sofar.reverse

def isTagChar (c : Char) : Bool := c.isAlphanum || "-;/?:@&=+$,_.!~*'()[]".toList.contains c

/-- What follows the handle of a tag; some of it may be written as bytes. -/
def tagRest : Nat → List Char → Scan (List Char)
  | 0, _ => malformed
  | fuel + 1, sofar => do
    let sofar := (← takeWhile isTagChar).reverseAux sofar
    if (← next) = some '%' then
      match Utf8.decode (← percentBytes ((← get).rest.length + 1) []) with
      | .ok s => tagRest fuel (s.toList.reverseAux sofar)
      | .error _ => malformed
    else return sofar.reverse

/-- The text of a tag, which is not empty. -/
def tagText : Scan String := do
  let c ← get
  let cs ← tagRest (c.rest.length + 1) []
  if (← get).index = c.index then malformed else return String.ofList cs

/-- The handle of a tag: an exclamation mark, or a name between two. -/
def tagHandle : Scan String := do
  if (← next) ≠ some '!' then malformed
  let c ← get
  skip 1
  if (← next) = some ' ' then return "!"
  let name ← takeWhile isNameChar
  if (← next) = some '!' then
    skip 1
    return String.ofList (c.rest.take (name.length + 2))
  else malformed

def tag : Scan WrittenTag := do
  let rest := (← get).rest.drop 1
  let written : WrittenTag ←
    if rest.head? = some '<' then do
      skip 2
      let s ← tagText
      if (← next) ≠ some '>' then malformed
      skip 1
      pure ⟨none, s⟩
    else if separates rest.head? then do
      skip 1
      pure ⟨none, "!"⟩
    else if (rest.takeWhile fun c => !endsWord (some c)).contains '!' then do
      let handle ← tagHandle
      pure ⟨some handle, ← tagText⟩
    else do
      skip 1
      pure ⟨some "!", ← tagText⟩
  if endsWord (← next) then return written else malformed

def versionPart : Scan Nat := do
  let digits ← takeWhile Char.isDigit
  if digits.isEmpty then malformed
  if 4300 < digits.length then throw (.ofUnreadable (.tooManyDigits digits.length))
  return digits.foldl (fun n c => n * 10 + (c.toNat - 48)) 0

def version : Scan Directive := do
  skipWhile (· = ' ')
  let major ← versionPart
  if (← next) ≠ some '.' then malformed
  skip 1
  let _ ← versionPart
  if endsWord (← next) then return .version major else malformed

/-- The handle that a directive gives a meaning to. -/
def handleMeaning : Scan Directive := do
  skipWhile (· = ' ')
  let handle ← tagHandle
  if (← next) ≠ some ' ' then malformed
  skipWhile (· = ' ')
  let start ← tagText
  if endsWord (← next) then return .tag handle start else malformed

/-- A directive with the line that it stands on. -/
def directive : Scan Directive := do
  skip 1
  let name ← takeWhile isNameChar
  if name.isEmpty || !endsWord (← next) then malformed
  let d ←
    if name = "YAML".toList then version
    else if name = "TAG".toList then handleMeaning
    else do
      skipWhile (!isBreak ·)
      pure .other
  skipWhile (· = ' ')
  comment
  if !endsLine (← next) then malformed
  let _ ← lineBreak
  return d

end Scan

end ForeignBridge.Yaml
