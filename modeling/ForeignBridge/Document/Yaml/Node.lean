import ForeignBridge.Document.Yaml.Tag
import ForeignBridge.Document.Yaml.Token

/-!
The nodes of a YAML document. A node is known by its place in a graph, so that an alias leads to the node of
its anchor, which may still be open. `Graph.ofText` reads the one document of a text.
-/

namespace ForeignBridge.Yaml

inductive Content
  | scalar (text : String)
  | items (nodes : List Nat)
  | entries (nodes : List (Nat × Nat))
deriving Repr, Inhabited

structure Node where
  tag : Tag
  content : Content
deriving Repr, Inhabited

abbrev Graph := Array Node

structure Composing where
  tokens : List Token
  stop : Unread
  handles : List (String × String)
  anchors : List (String × Nat)
  nodes : Graph

abbrev Compose := StateT Composing (Except Unread)

namespace Compose

def malformed {α : Type} : Compose α := throw .malformed

def peek : Compose Token := do
  let s ← get
  match s.tokens with
  | t :: _ => return t
  | [] => throw s.stop

def pass : Compose Unit := modify fun s => { s with tokens := s.tokens.drop 1 }

/-- Passes a token, if it is the next one. -/
def accept (t : Token) : Compose Bool := do
  if (← peek) = t then
    pass
    return true
  else return false

/-- Passes a token that must be the next one. -/
def expect (t : Token) : Compose Unit := do
  if !(← accept t) then malformed

def nextIn (ts : List Token) : Compose Bool := return ts.contains (← peek)

def add (n : Node) : Compose Nat := do
  let s ← get
  set { s with nodes := s.nodes.push n }
  return s.nodes.size

def fill (id : Nat) (c : Content) : Compose Unit :=
  modify fun s => { s with nodes := s.nodes.modify id fun n => { n with content := c } }

def absent : Compose Nat := add ⟨.null, .scalar ""⟩

/-- What stands before a node: an anchor and a tag, in either order. -/
structure Properties where
  anchor : Option String
  tag : Option WrittenTag

def properties : Compose Properties := do
  match ← peek with
  | .anchor a =>
    pass
    match ← peek with
    | .tag t =>
      pass
      return ⟨some a, some t⟩
    | _ => return ⟨some a, none⟩
  | .tag t =>
    pass
    match ← peek with
    | .anchor a =>
      pass
      return ⟨some a, some t⟩
    | _ => return ⟨none, some t⟩
  | _ => return ⟨none, none⟩

/-- The whole text of a tag. The tag `!` alone says nothing. -/
def tagName (t : Option WrittenTag) : Compose (Option String) := do
  match t with
  | none => return none
  | some ⟨none, rest⟩ => return some rest
  | some ⟨some handle, rest⟩ =>
    match (← get).handles.lookup handle with
    | some start => return some (start ++ rest)
    | none => malformed

def collectionTag (name : Option String) (ordinary : Tag) : Tag :=
  match name with
  | none | some "!" => ordinary
  | some name => .ofName name

def scalarTag (name : Option String) (isPlain : Bool) (text : String) : Tag :=
  match name with
  | none => if isPlain then .ofPlain text else .text
  | some "!" => .ofPlain text
  | some name => .ofName name

/-- Adds a node that an anchor may lead to; the anchor must be a new one. -/
def addAnchored (anchor : Option String) (n : Node) : Compose Nat := do
  match anchor with
  | none => add n
  | some a =>
    if ((← get).anchors.lookup a).isSome then malformed
    let id ← add n
    modify fun s => { s with anchors := (a, id) :: s.anchors }
    return id

def aliased (name : String) : Compose Nat := do
  match (← get).anchors.lookup name with
  | some id => return id
  | none => malformed

def deepest : Nat := 490

mutual

/-- A node, inside which others may be nested to a depth. `inBlock` tells whether it may be in block form, and
`afterKey` whether it may be a list that stands no further to the right than the key before it. -/
def node : Nat → Nat → Bool → Bool → Compose Nat
  | 0, _, _, _ => malformed
  | _, 0, _, _ => throw (.failure (.nestedTooDeep none))
  | fuel + 1, depth + 1, inBlock, afterKey => do
    if let .alias name ← peek then
      pass
      return ← aliased name
    let p ← properties
    let name ← tagName p.tag
    let collection (t : Tag) : Compose Nat := addAnchored p.anchor ⟨collectionTag name t, .items []⟩
    match ← peek with
    | .blockItem =>
      if afterKey then
        let id ← collection .items
        fill id (.items (← indentlessItems fuel depth []))
        return id
      else emptyNode p name
    | .scalar isPlain text =>
      pass
      addAnchored p.anchor ⟨scalarTag name isPlain text, .scalar text⟩
    | .flowItemsStart =>
      let id ← collection .items
      pass
      fill id (.items (← flowItems fuel depth true []))
      return id
    | .flowEntriesStart =>
      let id ← collection .entries
      pass
      fill id (.entries (← flowEntries fuel depth true []))
      return id
    | .blockItemsStart =>
      if inBlock then
        let id ← collection .items
        pass
        fill id (.items (← blockItems fuel depth []))
        return id
      else emptyNode p name
    | .blockEntriesStart =>
      if inBlock then
        let id ← collection .entries
        pass
        fill id (.entries (← blockEntries fuel depth []))
        return id
      else emptyNode p name
    | _ => emptyNode p name

/-- A node with nothing but an anchor or a tag. -/
def emptyNode (p : Properties) (name : Option String) : Compose Nat := do
  if p.anchor.isNone && name.isNone then malformed
  else addAnchored p.anchor ⟨scalarTag name true "", .scalar ""⟩

/-- A node, unless one of some tokens shows that it is left out. -/
def nodeUnless : Nat → Nat → List Token → Bool → Bool → Compose Nat
  | 0, _, _, _, _ => malformed
  | fuel + 1, depth, ts, inBlock, afterKey => do
    if ← nextIn ts then absent else node fuel depth inBlock afterKey

def blockItems : Nat → Nat → List Nat → Compose (List Nat)
  | 0, _, _ => malformed
  | fuel + 1, depth, sofar => do
    if ← accept .blockItem then
      let id ← nodeUnless fuel depth [.blockItem, .blockEnd] true false
      blockItems fuel depth (id :: sofar)
    else
      expect .blockEnd
      return sofar.reverse

/-- Further items of a list that stands no further to the right than its key. -/
def indentlessItems : Nat → Nat → List Nat → Compose (List Nat)
  | 0, _, _ => malformed
  | fuel + 1, depth, sofar => do
    if ← accept .blockItem then
      let id ← nodeUnless fuel depth [.blockItem, .key, .value, .blockEnd] true false
      indentlessItems fuel depth (id :: sofar)
    else return sofar.reverse

def blockEntries : Nat → Nat → List (Nat × Nat) → Compose (List (Nat × Nat))
  | 0, _, _ => malformed
  | fuel + 1, depth, sofar => do
    if ← accept .key then
      let key ← nodeUnless fuel depth [.key, .value, .blockEnd] true true
      let value ←
        if ← accept .value then nodeUnless fuel depth [.key, .value, .blockEnd] true true else absent
      blockEntries fuel depth ((key, value) :: sofar)
    else
      expect .blockEnd
      return sofar.reverse

/-- Further items of a list in brackets; a key among them makes a mapping of one entry. -/
def flowItems : Nat → Nat → Bool → List Nat → Compose (List Nat)
  | 0, _, _, _ => malformed
  | fuel + 1, depth, isFirst, sofar => do
    if ← accept .flowItemsEnd then return sofar.reverse
    if !isFirst then expect .flowItem
    if ← accept .key then
      let id ← add ⟨.entries, .entries []⟩
      let key ← nodeUnless fuel depth [.value, .flowItem, .flowItemsEnd] false false
      let value ←
        if ← accept .value then nodeUnless fuel depth [.flowItem, .flowItemsEnd] false false else absent
      fill id (.entries [(key, value)])
      flowItems fuel depth false (id :: sofar)
    else if ← accept .flowItemsEnd then return sofar.reverse
    else
      let id ← node fuel depth false false
      flowItems fuel depth false (id :: sofar)

/-- Further entries of a mapping in braces; what is no key has no value. -/
def flowEntries : Nat → Nat → Bool → List (Nat × Nat) → Compose (List (Nat × Nat))
  | 0, _, _, _ => malformed
  | fuel + 1, depth, isFirst, sofar => do
    if ← accept .flowEntriesEnd then return sofar.reverse
    if !isFirst then expect .flowItem
    if ← accept .key then
      let key ← nodeUnless fuel depth [.value, .flowItem, .flowEntriesEnd] false false
      let value ←
        if ← accept .value then nodeUnless fuel depth [.flowItem, .flowEntriesEnd] false false else absent
      flowEntries fuel depth false ((key, value) :: sofar)
    else if ← accept .flowEntriesEnd then return sofar.reverse
    else
      let key ← node fuel depth false false
      let value ← absent
      flowEntries fuel depth false ((key, value) :: sofar)

end

/-- What the handles stand for that no directive gives another meaning. -/
def ordinaryHandles : List (String × String) := [("!", "!"), ("!!", Tag.commonStart)]

/-- Passes directives. A version is told once, and a handle is given one meaning. -/
def directives : Nat → Bool → List (String × String) → Compose Unit
  | 0, _, _ => malformed
  | fuel + 1, versioned, handles => do
    match ← peek with
    | .directive d =>
      pass
      match d with
      | .version major => if versioned || major ≠ 1 then malformed else directives fuel true handles
      | .tag handle start =>
        if (handles.lookup handle).isSome then malformed
        else directives fuel versioned ((handle, start) :: handles)
      | .other => directives fuel versioned handles
    | _ => modify fun s => { s with handles := handles ++ ordinaryHandles }

def skipEnds : Nat → Compose Unit
  | 0 => return
  | fuel + 1 => do
    if ← accept .documentEnd then skipEnds fuel

/-- Whether a token starts a document with directives or a mark, or ends the text. -/
def startsFormally : Token → Bool
  | .directive _ | .documentStart | .textEnd => true
  | _ => false

/-- The only document of a text and its root; an empty text has none. -/
def document (fuel : Nat) : Compose (Option Nat) := do
  let root ←
    if !startsFormally (← peek) then some <$> node fuel deepest true false
    else if (← peek) = .textEnd then pure none
    else
      directives fuel false []
      expect .documentStart
      match ← peek with
      | .directive _ | .documentStart | .documentEnd | .textEnd => some <$> absent
      | _ => some <$> node fuel deepest true false
  skipEnds fuel
  if (← peek) = .textEnd then return root else malformed

end Compose

/-- The graph of the document that a text holds, and its root. -/
def Graph.ofText (cs : List Char) : Except Unread (Option Nat × Graph) := do
  let (tokens, stop) := Tokens.readAll (cs.length + 2) (.ofText cs)
  let fuel := 3 * tokens.length + 8
  let (root, s) ← (Compose.document fuel).run ⟨tokens, stop, Compose.ordinaryHandles, [], #[]⟩
  return (root, s.nodes)

end ForeignBridge.Yaml
