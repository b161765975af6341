import ForeignBridge.Document.Merge
import ForeignBridge.Proofs.Value.Lookup

/-!
Documents laid over one another. A layer is a document with a value under each of its names, in a section or
outside; laid over any document it gives what it has at the end of a path and leaves the rest as it was.
-/

namespace ForeignBridge.Value

/-- The value at the end of a path. -/
def at? (v : Value) : List String → Option Value
  | [] => some v
  | name :: rest => (v.field? name).bind fun a => a.at? rest

@[simp] theorem at?_singleton (v : Value) (name : String) : v.at? [name] = v.field? name := by
  cases h : v.field? name <;> simp [at?, h]

@[simp] theorem at?_pair (v : Value) (sect name : String) :
    v.at? [sect, name] = (v.field? sect).bind fun a => a.field? name := by
  simp only [at?, Option.bind_fun_some]

/-! ### Fields -/

theorem field?_dict (entries : List (Value × Value)) (name : String) :
    (dict entries).field? name = entry? (text name) entries := by
  induction entries with
  | nil => rfl
  | cons e rest ih =>
    obtain ⟨k, v⟩ := e
    simp only [field?, entry?, List.find?_cons] at ih ⊢
    cases k with
    | text s =>
      simp only [same]
      cases s == name with
      | true => rfl
      | false => exact ih
    | _ => simpa only [same, Bool.false_eq_true, if_false] using ih

theorem field?_ofMembers (members : List (String × Value)) (name : String) :
    (ofMembers members).field? name = lookup name members := by
  rw [ofMembers, field?_dict]
  induction members with
  | nil => rfl
  | cons e rest ih => simp only [List.map_cons, entry?, lookup, same, beq_iff_eq, ih]

theorem insertEntry_members (name : String) (v : Value) (members : List (String × Value)) :
    insertEntry (text name) v (members.map fun e => (text e.1, e.2))
      = (put name v members).map fun e => (text e.1, e.2) := by
  induction members with
  | nil => rfl
  | cons e rest ih =>
    simp only [List.map_cons, insertEntry, put, same, beq_iff_eq, ih]
    split <;> rfl

theorem field?_insertEntry (name other : String) (v : Value) (entries : List (Value × Value)) :
    (dict (insertEntry (text name) v entries)).field? other
      = if other = name then some v else (dict entries).field? other := by
  simp only [field?_dict]
  induction entries with
  | nil => by_cases h : other = name <;> simp [insertEntry, entry?, same, h, Ne.symm]
  | cons e rest ih =>
    obtain ⟨k, a⟩ := e
    unfold insertEntry
    cases hk : k.same (text name) with
    | true =>
      have ht : k = text name := by cases k <;> simp_all [same]
      subst ht
      by_cases h : other = name <;> simp [same, entry?, h, Ne.symm]
    | false =>
      by_cases h : other = name
      · subst h
        simpa [hk, entry?] using ih
      · simp only [Bool.false_eq_true, if_false, entry?, ih, h]

/-! ### What is laid over what -/

/-- A value that is no dictionary, so that it takes the place of what it is laid over. -/
def Leaf (v : Value) : Prop := ∀ entries, v ≠ dict entries

theorem overlay_leaf {v : Value} (h : v.Leaf) (below : Value) : below.overlay v = v := by
  cases v with
  | dict entries => exact (h entries rfl).elim
  | _ => rfl

theorem Leaf.field? {v : Value} (h : v.Leaf) (name : String) : v.field? name = none := by
  cases v with
  | dict entries => exact (h entries rfl).elim
  | _ => rfl

theorem Leaf.under {v : Value} (h : v.Leaf) (entries : List (Value × Value)) :
    v.overlay (dict entries) = dict entries := by
  cases v with
  | dict old => exact (h old rfl).elim
  | _ => rfl

theorem overlay_dict (below entries : List (Value × Value)) :
    (dict below).overlay (dict entries) = dict (overlayEntries below entries) := rfl

/-- A document with values of a kind under distinct names; the kind depends on the name. -/
def Fits (kind : String → Value → Prop) (v : Value) : Prop :=
  ∃ members, v = ofMembers members ∧ (members.map Prod.fst).Nodup ∧ ∀ e ∈ members, kind e.1 e.2

variable {kind : String → Value → Prop} {below above : Value}

theorem Fits.of_field? {v a : Value} {name : String} (h : v.Fits kind) (ha : v.field? name = some a) :
    kind name a := by
  obtain ⟨members, rfl, -, hk⟩ := h
  rw [field?_ofMembers] at ha
  exact hk _ (lookup_mem ha)

/-- What an upper document has counts, merged with what the lower one has; else what the lower one has. -/
theorem field?_overlay (h : above.Fits kind) (below : Value) (name : String) :
    (below.overlay above).field? name =
      match above.field? name, below.field? name with
      | none, found => found
      | some v, none => some v
      | some v, some old => some (old.overlay v) := by
  obtain ⟨members, rfl, hn, -⟩ := h
  rw [field?_ofMembers]
  by_cases hb : below.Leaf
  · rw [ofMembers, hb.under, ← ofMembers, field?_ofMembers, hb.field?]
    cases lookup name members <;> rfl
  · obtain ⟨entries, rfl⟩ := not_forall_not.mp hb
    clear hb
    rw [ofMembers, overlay_dict]
    induction members generalizing entries with
    | nil => rfl
    | cons e rest ih =>
      obtain ⟨n, v⟩ := e
      obtain ⟨hnew, hrest⟩ := List.nodup_cons.mp hn
      rw [List.map_cons, overlayEntries, ih hrest, field?_insertEntry, ← field?_dict]
      by_cases hname : name = n
      · subst hname
        -- the name does not come again, so what was merged for it stays
        have hl : lookup name rest = none := by
          cases hl : lookup name rest with
          | none => rfl
          | some a => exact (hnew (List.mem_map.mpr ⟨_, lookup_mem hl, rfl⟩)).elim
        simp only [lookup, hl, if_true]
        cases (dict entries).field? name <;> rfl
      · simp only [lookup, hname, Ne.symm hname, if_false]

theorem Fits.overlay (hlaid : ∀ name old v, kind name old → kind name v → kind name (old.overlay v))
    (hb : below.Fits kind) (ha : above.Fits kind) : (below.overlay above).Fits kind := by
  obtain ⟨members, rfl, -, hk⟩ := ha
  obtain ⟨old, rfl, hn, hold⟩ := hb
  rw [ofMembers, ofMembers, overlay_dict]
  induction members generalizing old with
  | nil => exact ⟨old, rfl, hn, hold⟩
  | cons e rest ih =>
    obtain ⟨n, v⟩ := e
    obtain ⟨hv, hrest⟩ := List.forall_mem_cons.mp hk
    rw [List.map_cons, overlayEntries, insertEntry_members, ← field?_dict]
    have hold' := field?_ofMembers old n
    rw [ofMembers] at hold'
    refine ih hrest _ (nodup_put hn) fun e he => ?_
    obtain rfl | he := mem_put he
    · rw [hold']
      cases hl : lookup n old with
      | none => exact hv
      | some a => exact hlaid _ _ _ (hold _ (lookup_mem hl)) hv
    · exact hold e he

/-! ### Layers -/

/-- The names under which a configuration has sections. -/
def sectionNames : List String := ["contract", "callbacks", "logging"]

/-- What a layer has under a name: leaves by name where a section belongs, elsewhere a leaf. -/
def LayerEntry (name : String) (v : Value) : Prop := if name ∈ sectionNames then v.Fits fun _ => Leaf else v.Leaf

/-- A document that sets settings, in sections and outside, and nothing else. -/
def Layer (v : Value) : Prop := v.Fits LayerEntry

/-- Where settings stand: outside of the sections, or in one of them. -/
inductive SettingPath : List String → Prop
  | outside {name : String} (h : name ∉ sectionNames) : SettingPath [name]
  | within {sect : String} (name : String) (h : sect ∈ sectionNames) : SettingPath [sect, name]

theorem leaf_overlay {old v : Value} (h : v.Leaf) : (old.overlay v).Leaf := by rwa [overlay_leaf h]

theorem LayerEntry.overlay {name : String} {old v : Value} (ho : LayerEntry name old) (hv : LayerEntry name v) :
    LayerEntry name (old.overlay v) := by
  unfold LayerEntry at *
  split_ifs at * with h
  · exact ho.overlay (fun _ _ _ _ => leaf_overlay) hv
  · exact leaf_overlay hv

theorem Layer.overlay (hb : below.Layer) (ha : above.Layer) : (below.overlay above).Layer :=
  Fits.overlay (fun _ _ _ => LayerEntry.overlay) hb ha

/-- A layer over a document: its settings count, and below them those of the document. -/
theorem at?_overlay (h : above.Layer) (below : Value) {path : List String} (hp : SettingPath path) :
    (below.overlay above).at? path = (above.at? path).or (below.at? path) := by
  cases hp with
  | @outside name hn =>
    simp only [at?_singleton, field?_overlay h]
    cases ha : above.field? name with
    | none => rfl
    | some v =>
      have hv : v.Leaf := by simpa [LayerEntry, hn] using h.of_field? ha
      cases below.field? name with
      | none => rfl
      | some old => simp only [overlay_leaf hv, Option.some_or]
  | @within sect name hs =>
    simp only [at?_pair, field?_overlay h]
    cases ha : above.field? sect with
    | none => rfl
    | some v =>
      have hv : v.Fits fun _ => Leaf := by simpa [LayerEntry, hs] using h.of_field? ha
      cases below.field? sect with
      | none => simp only [Option.bind_some, Option.bind_none, Option.or_none]
      | some old =>
        simp only [Option.bind_some, field?_overlay hv]
        cases hn : v.field? name with
        | none => rfl
        | some a =>
          have hl : a.Leaf := hv.of_field? hn
          cases old.field? name with
          | none => rfl
          | some b => simp only [overlay_leaf hl, Option.some_or]

end ForeignBridge.Value
