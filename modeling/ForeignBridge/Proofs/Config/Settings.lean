import ForeignBridge.Config.Setting
import ForeignBridge.Proofs.Config.Documents

/-!
Settings one by one. A setting is read from what a document has for it, and a list of settings makes a document
that has each of them under its name.
-/

namespace ForeignBridge

/-! ### Checks that find nothing -/

namespace Checked

variable {α β : Type}

theorem map_eq_ok {f : α → β} {x : Checked α} {b : β} : x.map f = ok b ↔ ∃ a, x = ok a ∧ f a = b := by
  cases x <;> simp [map]

theorem fmap_eq_ok {f : α → β} {x : Checked α} {b : β} : f <$> x = ok b ↔ ∃ a, x = ok a ∧ f a = b :=
  map_eq_ok

theorem seq_eq_ok {f : Checked (α → β)} {x : Checked α} {b : β} :
    f <*> x = ok b ↔ ∃ g a, f = ok g ∧ x = ok a ∧ g a = b := by
  change both f x = ok b ↔ _
  cases f <;> cases x <;> simp [both]

theorem under_eq_ok {name : String} {x : Checked α} {a : α} : x.under name = ok a ↔ x = ok a := by
  cases x <;> simp [under]

theorem andThen_eq_ok {x : Checked α} {f : α → Checked β} {b : β} :
    x.andThen f = ok b ↔ ∃ a, x = ok a ∧ f a = ok b := by
  cases x <;> simp [andThen]

end Checked

/-! ### Settings of a document -/

namespace Setting

variable {α β : Type} {doc : Value} {name : String} {absent : α} {entry : Value → Checked α} {s : Setting α}

/-- The setting that is read from what a document has for it, if it has something. -/
def ofGiven (absent : α) (entry : Value → Checked α) : Option Value → Checked (Setting α)
  | none => .ok (byDefault absent)
  | some v => (entry v).map set

theorem read_eq_ok : read doc name absent entry = .ok s ↔ ofGiven absent entry (doc.field? name) = .ok s := by
  unfold read
  cases doc.field? name with
  | none => rfl
  | some v => simp only [ofGiven, Checked.map_eq_ok, Checked.under_eq_ok]

/-- What a setting leaves in a document that has only what was set. -/
def asSet (shown : α → Value) (s : Setting α) : Option Value := if s.explicit then some (shown s.value) else none

/-- A setting inside another one; it counts as set if both are. -/
def within (outer : Setting β) (inner : β → Setting α) : Setting α :=
  ⟨(inner outer.value).value, outer.explicit && (inner outer.value).explicit⟩

end Setting

namespace Listed

variable {settings : List Listed} {s : Listed}

theorem document_field? (h : (settings.map name).Nodup) (hs : s ∈ settings) :
    (document settings).field? s.name = some s.whole := by
  rw [document, Value.field?_ofMembers]
  refine Value.lookup_of_nodup ?_ (List.mem_map.mpr ⟨s, hs, rfl⟩)
  rwa [List.map_map]

theorem setDocument_field? (h : (settings.map name).Nodup) (hs : s ∈ settings) :
    (setDocument settings).field? s.name = if s.explicit then some s.asSet else none := by
  rw [setDocument, Value.field?_ofMembers]
  split_ifs with he
  · refine Value.lookup_of_nodup ?_ (List.mem_map.mpr ⟨s, List.mem_filter.mpr ⟨hs, he⟩, rfl⟩)
    rw [List.map_map]
    exact h.sublist (List.Sublist.map name List.filter_sublist)
  · cases hl : Value.lookup s.name ((settings.filter (·.explicit)).map fun s => (s.name, s.asSet)) with
    | none => rfl
    | some a =>
      obtain ⟨t, ht, hts⟩ := List.mem_map.mp (Value.lookup_mem hl)
      obtain ⟨ht, hset⟩ := List.mem_filter.mp ht
      have hsame : t = s := List.inj_on_of_nodup_map h ht hs (congrArg Prod.fst hts)
      exact (he (hsame ▸ hset)).elim

@[simp] theorem leaf_text (s : String) : (Value.text s).Leaf := nofun

@[simp] theorem leaf_int (i : Int) : (Value.int i).Leaf := nofun

@[simp] theorem leaf_bool (b : Bool) : (Value.bool b).Leaf := nofun

@[simp] theorem leaf_optionalText (s : Option String) : (optionalText s).Leaf := by
  cases s <;> nofun

variable {kind : String → Value → Prop}

theorem document_fits (h : (settings.map name).Nodup) (hk : ∀ s ∈ settings, kind s.name s.whole) :
    (document settings).Fits kind := by
  refine ⟨_, rfl, by rwa [List.map_map], fun e he => ?_⟩
  obtain ⟨s, hs, rfl⟩ := List.mem_map.mp he
  exact hk s hs

theorem setDocument_fits (h : (settings.map name).Nodup) (hk : ∀ s ∈ settings, kind s.name s.asSet) :
    (setDocument settings).Fits kind := by
  refine ⟨_, rfl, ?_, fun e he => ?_⟩
  · rw [List.map_map]
    exact h.sublist (List.Sublist.map name List.filter_sublist)
  · obtain ⟨s, hs, rfl⟩ := List.mem_map.mp he
    exact hk s (List.mem_filter.mp hs).1

end Listed

end ForeignBridge
