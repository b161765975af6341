import ForeignBridge.Document.Toml.Printer
import ForeignBridge.Proofs.Config.Documents

/-!
Documents without their nulls. A printed TOML document is the same with and without them; a layer keeps what else it
has at the end of a path.
-/

namespace ForeignBridge

namespace Value

def isNull : Value → Bool
  | null => true
  | _ => false

mutual

/-- A document in which no dictionary has an entry that is null. -/
def withoutNulls : Value → Value
  | dict entries => dict (entriesWithoutNulls entries)
  | v => v

def entriesWithoutNulls : List (Value × Value) → List (Value × Value)
  | [] => []
  | e :: rest =>
    if e.2.isNull then entriesWithoutNulls rest else (e.1, e.2.withoutNulls) :: entriesWithoutNulls rest

end

theorem Leaf.withoutNulls {v : Value} (h : v.Leaf) : v.withoutNulls = v := by
  cases v with
  | dict entries => exact (h entries rfl).elim
  | _ => rfl

theorem withoutNulls_ofMembers (members : List (String × Value)) :
    (ofMembers members).withoutNulls
      = ofMembers ((members.filter fun e => !e.2.isNull).map fun e => (e.1, e.2.withoutNulls)) := by
  rw [ofMembers, ofMembers, withoutNulls]
  apply congrArg dict
  induction members with
  | nil => rfl
  | cons e rest ih =>
    rw [List.map_cons, entriesWithoutNulls, ih, List.filter_cons]
    cases e.2.isNull <;> rfl

/-- A document keeps what is not null under its names. -/
theorem Fits.field?_withoutNulls {kind : String → Value → Prop} {v : Value} (h : v.Fits kind) (name : String) :
    v.withoutNulls.field? name = ((v.field? name).filter fun a => !a.isNull).map Value.withoutNulls := by
  obtain ⟨members, rfl, hnodup, -⟩ := h
  rw [withoutNulls_ofMembers, field?_ofMembers, field?_ofMembers,
    ← lookup_filter hnodup (fun e : String × Value => !e.2.isNull)]
  induction members.filter fun e => !e.2.isNull with
  | nil => rfl
  | cons e rest ih =>
    rw [List.map_cons, lookup, lookup, ih]
    split_ifs <;> rfl

theorem Fits.withoutNulls {kind : String → Value → Prop} {v : Value} (h : v.Fits kind)
    (hkind : ∀ name a, kind name a → kind name a.withoutNulls) : v.withoutNulls.Fits kind := by
  obtain ⟨members, rfl, hnodup, hk⟩ := h
  rw [withoutNulls_ofMembers]
  refine ⟨_, rfl, ?_, ?_⟩
  · rw [List.map_map]
    exact hnodup.sublist (List.Sublist.map Prod.fst List.filter_sublist)
  · intro e he
    obtain ⟨old, hold, rfl⟩ := List.mem_map.mp he
    exact hkind _ _ (hk old (List.mem_filter.mp hold).1)

theorem Layer.withoutNulls {v : Value} (h : v.Layer) : v.withoutNulls.Layer := by
  apply Fits.withoutNulls h
  intro name a ha
  unfold LayerEntry at *
  split_ifs at * with hname
  · apply Fits.withoutNulls ha
    intro inner b hb
    rwa [hb.withoutNulls]
  · rwa [ha.withoutNulls]

theorem Layer.at?_withoutNulls {v : Value} (h : v.Layer) {path : List String} (hp : SettingPath path) :
    v.withoutNulls.at? path = (v.at? path).filter fun a => !a.isNull := by
  have hleaf : ∀ {kind : String → Value → Prop} {v : Value} {name : String}, v.Fits kind →
      (∀ a, kind name a → a.Leaf) → v.withoutNulls.field? name = (v.field? name).filter fun a => !a.isNull := by
    intro kind v name hv hkind
    rw [hv.field?_withoutNulls]
    cases hf : v.field? name with
    | none => rfl
    | some a =>
      have ha : a.Leaf := hkind a (hv.of_field? hf)
      rw [Option.filter_some]
      split_ifs
      · rw [Option.map_some, ha.withoutNulls]
      · rfl
  cases hp with
  | @outside name hn =>
    rw [at?_singleton, at?_singleton]
    exact hleaf h fun a ha => by simpa [LayerEntry, hn] using ha
  | @within sect name hs =>
    rw [at?_pair, at?_pair, h.field?_withoutNulls]
    cases hf : v.field? sect with
    | none => rfl
    | some inner =>
      have hinner : inner.Fits fun _ => Leaf := by simpa [LayerEntry, hs] using h.of_field? hf
      have hnull : inner.isNull = false := by
        obtain ⟨members, rfl, -⟩ := hinner
        rfl
      rw [Option.filter_some, hnull, Option.bind_some]
      exact hleaf hinner fun a ha => ha

end Value

/-! ### Printing -/

namespace Toml

open Value

theorem plainLines?_withoutNulls (entries : List (Value × Value)) :
    plainLines? (entriesWithoutNulls entries) = plainLines? entries := by
  induction entries with
  | nil => rfl
  | cons e rest ih =>
    obtain ⟨k, v⟩ := e
    cases v with
    | null | dict => exact ih
    | _ =>
      change (do
        let name ← keyText? k.shown
        let text ← plain? _
        return name ++ " = " ++ text ++ "\n" ++ (← plainLines? (entriesWithoutNulls rest))) = _
      rw [ih]
      rfl

def strip (t : String × List (Value × Value)) : String × List (Value × Value) := (t.1, entriesWithoutNulls t.2)

theorem tables?_withoutNulls (entries : List (Value × Value)) :
    tables? (entriesWithoutNulls entries) = (tables? entries).map fun tables => tables.map strip := by
  induction entries with
  | nil => rfl
  | cons e rest ih =>
    obtain ⟨k, v⟩ := e
    cases v with
    | dict inner =>
      change (do
        let name ← keyText? k.shown
        return (name, entriesWithoutNulls inner) :: (← tables? (entriesWithoutNulls rest))) = _
      rw [ih, tables?]
      cases keyText? k.shown <;> cases tables? rest <;> rfl
    | _ => exact ih

/-- What one table adds to the text, and to the tables that are inside others. -/
def addTable (sofar : String × List (String × List (Value × Value))) (table : String × List (Value × Value)) :
    Option (String × List (String × List (Value × Value))) := do
  let lines ← plainLines? table.2
  let below ← tables? table.2
  let heading := if lines.isEmpty && !below.isEmpty then "" else "[" ++ table.1 ++ "]\n"
  let text := if heading.isEmpty then sofar.1 else separated sofar.1 ++ heading ++ lines
  return (text, sofar.2 ++ below.map fun t => (table.1 ++ "." ++ t.1, t.2))

theorem addTables_succ (fuel : Nat) (sofar : String) (tables : List (String × List (Value × Value))) :
    addTables (fuel + 1) sofar tables =
      if tables.isEmpty then some sofar
      else (tables.foldlM addTable (sofar, [])).bind fun added => addTables fuel added.1 added.2 := rfl

theorem addTable_strip (text : String) (inner : List (String × List (Value × Value)))
    (table : String × List (Value × Value)) :
    addTable (text, inner.map strip) (strip table) =
      (addTable (text, inner) table).map fun added => (added.1, added.2.map strip) := by
  unfold addTable
  dsimp only [strip]
  rw [plainLines?_withoutNulls, tables?_withoutNulls]
  cases plainLines? table.2 with
  | none => rfl
  | some lines =>
    cases tables? table.2 with
    | none => rfl
    | some below =>
      simp [strip, Function.comp_def]

theorem foldlM_addTable_strip (tables : List (String × List (Value × Value))) (text : String)
    (inner : List (String × List (Value × Value))) :
    (tables.map strip).foldlM addTable (text, inner.map strip) =
      (tables.foldlM addTable (text, inner)).map fun added => (added.1, added.2.map strip) := by
  induction tables generalizing text inner with
  | nil => rfl
  | cons table rest ih =>
    rw [List.map_cons, List.foldlM_cons, List.foldlM_cons, addTable_strip]
    cases addTable (text, inner) table with
    | none => rfl
    | some added => exact ih added.1 added.2

theorem addTables_strip (fuel : Nat) (sofar : String) (tables : List (String × List (Value × Value))) :
    addTables fuel sofar (tables.map strip) = addTables fuel sofar tables := by
  induction fuel generalizing sofar tables with
  | zero => rfl
  | succ fuel ih =>
    have hfold := foldlM_addTable_strip tables sofar []
    rw [List.map_nil] at hfold
    rw [addTables_succ, addTables_succ, List.isEmpty_map, hfold]
    cases tables.foldlM addTable (sofar, []) with
    | none => rfl
    | some added =>
      split_ifs
      · rfl
      · exact ih added.1 added.2

/-- Nulls make no difference to the text of a document that is as deep without them. -/
theorem print?_withoutNulls {v : Value} (h : v.withoutNulls.depth = v.depth) : print? v.withoutNulls = print? v := by
  cases v with
  | dict entries =>
    change (do
      let lines ← plainLines? (entriesWithoutNulls entries)
      addTables (dict entries).withoutNulls.depth lines (← tables? (entriesWithoutNulls entries))) = _
    rw [h, plainLines?_withoutNulls, tables?_withoutNulls, print?]
    cases plainLines? entries with
    | none => rfl
    | some lines =>
      cases tables? entries with
      | none => rfl
      | some tables => exact addTables_strip _ lines tables
  | _ => rfl

end Toml

end ForeignBridge
