import ForeignBridge.Document.Yaml.Node
import ForeignBridge.Document.Yaml.ScalarValue
import ForeignBridge.Value.Equal

/-!
The values of YAML documents. Collections are opened one after another, those nearest to the root first, and
the first scalar without a value that is met so is what the document fails with. A collection that holds
itself is unrolled to a depth.
-/

namespace ForeignBridge.Yaml

structure Settling where
  nodes : Graph
  scalars : Array (Option Value)
  met : Array Bool
  waiting : List Nat

abbrev Settle := StateT Settling (Except Unread)

namespace Settle

def malformed {α : Type} : Settle α := throw .malformed

def nodeAt (id : Nat) : Settle Node := return (← get).nodes.getD id default

def entriesOf (id : Nat) : Settle (List (Nat × Nat)) := do
  match (← nodeAt id).content with
  | .entries es => return es
  | _ => malformed

def setEntries (id : Nat) (es : List (Nat × Nat)) : Settle Unit :=
  modify fun s => { s with nodes := s.nodes.modify id fun n => { n with content := .entries es } }

mutual

/-- Puts the entries that merging keys bring in before a mapping's own. -/
def flatten : Nat → Nat → Settle Unit
  | 0, _ => malformed
  | fuel + 1, id => flattenFrom fuel id 0 []

/-- Goes on from the entry at a place, with the entries brought in before it. -/
def flattenFrom : Nat → Nat → Nat → List (Nat × Nat) → Settle Unit
  | 0, _, _, _ => malformed
  | fuel + 1, id, place, merged => do
    let es ← entriesOf id
    match es[place]? with
    | none => if !merged.isEmpty then setEntries id (merged ++ es)
    | some (key, value) =>
      match (← nodeAt key).tag with
      | .merge =>
        setEntries id (es.eraseIdx place)
        match (← nodeAt value).content with
        | .entries _ =>
          flatten fuel value
          flattenFrom fuel id place (merged ++ (← entriesOf value))
        | .items parts => flattenFrom fuel id place (merged ++ (← flattenAll fuel parts []))
        | .scalar _ => malformed
      | .scalarKey =>
        modify fun s => { s with nodes := s.nodes.modify key fun n => { n with tag := .text } }
        flattenFrom fuel id (place + 1) merged
      | _ => flattenFrom fuel id (place + 1) merged

/-- The entries of several mappings, those of the last one first. -/
def flattenAll : Nat → List Nat → List (Nat × Nat) → Settle (List (Nat × Nat))
  | 0, _, _ => malformed
  | _, [], sofar => return sofar
  | fuel + 1, id :: rest, sofar => do
    let _ ← entriesOf id
    flatten fuel id
    flattenAll fuel rest ((← entriesOf id) ++ sofar)

end

/-- The text that a scalar has, or that a mapping keeps under its scalar key. -/
def textOf : Nat → Nat → Settle String
  | 0, _ => malformed
  | fuel + 1, id => do
    let n ← nodeAt id
    match n.content with
    | .scalar s => return s
    | .items _ => malformed
    | .entries es =>
      for e in es do
        if (← nodeAt e.1).tag = .scalarKey then return ← textOf fuel e.2
      malformed

/-- Meets a node: a scalar gets its value at once, a collection waits until it is opened. -/
def meet (id : Nat) : Settle Unit := do
  let s ← get
  if (s.scalars.getD id none).isSome || s.met.getD id false then return
  let n ← nodeAt id
  match n.tag with
  | .items | .pairs | .names | .entries =>
    set { s with met := s.met.setIfInBounds id true, waiting := id :: s.waiting }
  | .merge | .scalarKey | .unknown => malformed
  | t =>
    let text ← textOf (s.nodes.size + 1) id
    match ScalarValue.ofTag t text with
    | .ok v => set { s with scalars := s.scalars.setIfInBounds id (some v) }
    | .error why => throw why

/-- Meets what a collection holds. A key of a mapping is no collection; a pair is a mapping of one entry. -/
def openNode (fuel : Nat) (id : Nat) : Settle Unit := do
  let n ← nodeAt id
  match n.tag with
  | .items =>
    match n.content with
    | .items ids => ids.forM meet
    | _ => malformed
  | .pairs =>
    match n.content with
    | .items ids =>
      for pair in ids do
        match ← entriesOf pair with
        | [(key, value)] =>
          meet key
          meet value
        | _ => malformed
    | _ => malformed
  | _ =>
    let _ ← entriesOf id
    flatten fuel id
    for (key, value) in ← entriesOf id do
      meet key
      if (← nodeAt key).tag.isCollection then malformed
      meet value

/-- Opens all collections that wait, and those they hold after them. -/
def openAll (fuel : Nat) : Nat → Settle Unit
  | 0 => return
  | rounds + 1 => do
    let waiting := (← get).waiting.reverse
    if waiting.isEmpty then return
    modify fun s => { s with waiting := [] }
    waiting.forM (openNode fuel)
    openAll fuel rounds

/-- The value of a node whose parts have values. -/
def valueOf (s : Settling) (values : Array Value) (id : Nat) : Value :=
  let part (id : Nat) : Value := values.getD id .null
  let n := s.nodes.getD id default
  match s.scalars.getD id none with
  | some v => v
  | none =>
    match n.tag, n.content with
    | .pairs, .items ids =>
      .list <| ids.map fun pair =>
        match (s.nodes.getD pair default).content with
        | .entries ((key, value) :: _) => .tuple [part key, part value]
        | _ => .null
    | .names, .entries es => .list (es.map fun e => part e.1)
    | _, .entries es => .ofEntries (es.map fun e => (part e.1, part e.2))
    | _, .items ids => .list (ids.map part)
    | _, .scalar _ => .null

/-- The values of all nodes after one more round, from the last node to the first. What a node holds comes after
it, or else it has its value from the rounds before. -/
def round (s : Settling) (values : Array Value) : Array Value :=
  (List.range s.nodes.size).reverse.foldl (fun values id => values.setIfInBounds id (valueOf s values id)) values

def rounds (s : Settling) : Nat → Array Value → Array Value
  | 0, values => values
  | n + 1, values => rounds s n (round s values)

/-- Whether a node holds itself or one before it. -/
def leadsBack (nodes : Graph) : Bool :=
  (List.range nodes.size).any fun id =>
    match (nodes.getD id default).content with
    | .scalar _ => false
    | .items ids => ids.any (· ≤ id)
    | .entries es => es.any fun e => e.1 ≤ id || e.2 ≤ id

end Settle

/-- The rounds in which values are unrolled, where nodes lead back. -/
def mostRounds : Nat := 40

def isAllowed (c : Char) : Bool :=
  let n := c.toNat
  c = '\t' || c = '\n' || c = '\r' || (0x20 ≤ n && n ≤ 0x7e) || n = 0x85 || (0xa0 ≤ n && n ≤ 0xd7ff)
    || (0xe000 ≤ n && n ≤ 0xfffd) || 0x10000 ≤ n

/-- The value of a text that is one YAML document. -/
def read (s : String) : Except Unread Value := do
  let cs := s.toList
  if !cs.all isAllowed then throw .malformed
  let (root, nodes) ← Graph.ofText cs
  match root with
  | none => return .null
  | some root =>
    let count := nodes.size
    let size := nodes.foldl
      (fun n node => n + match node.content with
        | .entries es => es.length | .items ids => ids.length | .scalar _ => 0)
      count
    let fuel := 4 * (size + 2) * (size + 2)
    let start : Settling := ⟨nodes, Array.replicate count none, Array.replicate count false, []⟩
    let (_, s) ← (do Settle.meet root; Settle.openAll fuel (count + 1) : Settle Unit).run start
    let rounds := if Settle.leadsBack s.nodes then min count mostRounds + 1 else 1
    return (Settle.rounds s rounds (Array.replicate count .null)).getD root .null

end ForeignBridge.Yaml
