import ForeignBridge.Proofs.Bindings.Lifecycle
import ForeignBridge.Proofs.Callback.Isolation

/-!
The registries of all dispatchers against their histories. Each dispatcher has a registry of its own, so what is done
through one of them shows in its own history, and what is sent may add to any.
-/

namespace ForeignBridge

open Act

namespace World

/-- Every dispatcher has a registry, which is no other's. -/
structure Separate (w : World) : Prop where
  distinct : (w.owners.map Prod.snd).Nodup
  present : ∀ o ∈ w.owners, o.2 < w.registries.length

/-- The entries of the registry that a dispatcher owns. -/
def entriesOf (w : World) (id : Nat) : List (Int × Value) :=
  match w.owners[id]? with
  | some o => w.entriesIn o.2
  | none => []

/-- The entries that are new, as events. -/
def issues (w w' : World) (id : Nat) : List (HandleEvent Value) :=
  ((w'.entriesOf id).drop (w.entriesOf id).length).map fun e => .issued e.1 e.2

/-- The registries of the dispatchers, from a first one on, are as their histories say. -/
structure Traced (w : World) (first : Nat) (history : Nat → List (HandleEvent Value)) : Prop where
  separate : w.Separate
  follows : ∀ id name r, first ≤ id → w.owners[id]? = some (name, r) →
    ∃ t, w.registries[r]? = some t ∧ t.Follows name 1 (history id)
  unmade : ∀ id, w.owners.length ≤ id → history id = []

variable {w w' : World} {first id r : Nat} {name : String} {history : Nat → List (HandleEvent Value)}

theorem Separate.unique (h : w.Separate) {id' : Nat} {name' : String} (hid : w.owners[id]? = some (name, r))
    (hid' : w.owners[id']? = some (name', r)) : id = id' := by
  have hmap (n : Nat) (s : String) (hn : w.owners[n]? = some (s, r)) : (w.owners.map Prod.snd)[n]? = some r := by
    rw [List.getElem?_map, hn]
    rfl
  have hlt : id < (w.owners.map Prod.snd).length := by
    rw [List.length_map]
    exact (List.getElem?_eq_some_iff.mp hid).1
  exact (List.getElem?_inj hlt h.distinct).mp ((hmap id name hid).trans (hmap id' name' hid').symm)

theorem entriesOf_eq {t : HandleTable Value} (hid : w.owners[id]? = some (name, r)) (ht : w.registries[r]? = some t) :
    w.entriesOf id = t.entries := by
  rw [entriesOf, hid]
  dsimp only
  rw [entriesIn, ht]

theorem entriesOf_unmade (h : w.owners.length ≤ id) : w.entriesOf id = [] := by
  rw [entriesOf, List.getElem?_eq_none h]

theorem issues_of_eq (h : w'.entriesOf id = w.entriesOf id) : w.issues w' id = [] := by
  rw [issues, h, List.drop_length]
  rfl

/-- A dispatcher that is made has no entries yet, and those of the others are as they were. -/
theorem made_entriesOf (h : w.Separate) (ho : w'.owners = w.owners ++ [(name, w.registries.length)])
    (hr : w'.registries = w.registries ++ [.new name 1]) (id : Nat) : w'.entriesOf id = w.entriesOf id := by
  rcases Nat.lt_trichotomy id w.owners.length with hlt | rfl | hgt
  · have hp := h.present _ (List.getElem_mem hlt)
    have hown := List.getElem?_eq_getElem hlt
    rw [entriesOf, entriesOf, ho, List.getElem?_append_left hlt, hown]
    dsimp only
    rw [entriesIn, entriesIn, hr, List.getElem?_append_left hp]
  · have hnew : w'.owners[w.owners.length]? = some (name, w.registries.length) := by
      rw [ho, List.getElem?_concat_length]
    have htable : w'.registries[w.registries.length]? = some (.new name 1) := by
      rw [hr, List.getElem?_concat_length]
    rw [entriesOf_unmade (Nat.le_refl _), entriesOf_eq hnew htable]
    rfl
  · have hlen : w'.owners.length ≤ id := by
      rw [ho, List.length_append, List.length_singleton]
      exact hgt
    rw [entriesOf_unmade hlen, entriesOf_unmade hgt.le]

namespace Traced

theorem congr {other : Nat → List (HandleEvent Value)} (h : w.Traced first history) (he : ∀ id, other id = history id) :
    w.Traced first other := by
  obtain rfl : other = history := funext he
  exact h

theorem of_eq (h : w.Traced first history) (ho : w'.owners = w.owners) (hr : w'.registries = w.registries) :
    w'.Traced first history := by
  constructor
  · constructor
    · rw [ho]
      exact h.separate.distinct
    · rw [ho, hr]
      exact h.separate.present
  · rw [ho, hr]
    exact h.follows
  · rw [ho]
    exact h.unmade

/-- What only inserts in registries adds what is new to the histories. -/
theorem inserted (h : w.Traced first history) (ho : w'.owners = w.owners)
    (ht : ∀ r : Nat, ∃ things, w'.registries[r]? = w.registries[r]?.map (·.insertAll things)) :
    w'.Traced first fun id => history id ++ w.issues w' id := by
  constructor
  · constructor
    · rw [ho]
      exact h.separate.distinct
    · intro o hm
      rw [ho] at hm
      obtain ⟨things, hthings⟩ := ht o.2
      rw [List.getElem?_eq_getElem (h.separate.present o hm), Option.map_some] at hthings
      exact (List.getElem?_eq_some_iff.mp hthings).1
  · intro id name r hid hown
    rw [ho] at hown
    obtain ⟨t, htable, hf⟩ := h.follows id name r hid hown
    obtain ⟨things, hthings⟩ := ht r
    rw [htable, Option.map_some] at hthings
    obtain ⟨new, hnew, hfollows⟩ := hf.insertAll things
    refine ⟨_, hthings, ?_⟩
    have hown' : w'.owners[id]? = some (name, r) := by rw [ho, hown]
    have hdrop : (w'.entriesOf id).drop (w.entriesOf id).length = new := by
      rw [entriesOf_eq hown' hthings, entriesOf_eq hown htable, hnew, List.drop_left]
    rw [issues, hdrop]
    exact hfollows
  · intro id hid
    rw [issues, entriesOf_unmade hid, List.drop_nil, h.unmade id (ho ▸ hid)]
    rfl

/-- What happens in the registry of one dispatcher is an event of its history alone. -/
theorem set {t t' : HandleTable Value} {e : HandleEvent Value} (h : w.Traced first history)
    (hid : w.owners[id]? = some (name, r)) (ht : w.registries[r]? = some t) (ho : w'.owners = w.owners)
    (hr : w'.registries = w.registries.set r t')
    (he : ∀ history, t.Follows name 1 history → t'.Follows name 1 (history ++ [e])) :
    w'.Traced first fun n => history n ++ if n = id then [e] else [] := by
  constructor
  · constructor
    · rw [ho]
      exact h.separate.distinct
    · rw [ho, hr, List.length_set]
      exact h.separate.present
  · intro n name' r' hn hown
    rw [ho] at hown
    obtain ⟨t₁, ht₁, hf⟩ := h.follows n name' r' hn hown
    by_cases hni : n = id
    · subst hni
      rw [hid] at hown
      cases hown
      rw [ht] at ht₁
      cases ht₁
      refine ⟨t', ?_, ?_⟩
      · rw [hr]
        exact List.getElem?_set_self (List.getElem?_eq_some_iff.mp ht).1
      · rw [if_pos rfl]
        exact he _ hf
    · -- no two dispatchers share a registry, so this one's is not touched
      have hne : r ≠ r' := by
        rintro rfl
        exact hni (h.separate.unique hown hid)
      refine ⟨t₁, ?_, ?_⟩
      · rw [hr, List.getElem?_set_ne hne]
        exact ht₁
      · rw [if_neg hni, List.append_nil]
        exact hf
  · intro n hn
    rw [ho] at hn
    have hni : n ≠ id := by
      rintro rfl
      rw [List.getElem?_eq_none hn] at hid
      cases hid
    rw [h.unmade n hn, if_neg hni]
    rfl

/-- A dispatcher that is made starts with a new registry and without a history. -/
theorem made (h : w.Traced first history) (ho : w'.owners = w.owners ++ [(name, w.registries.length)])
    (hr : w'.registries = w.registries ++ [.new name 1]) :
    w'.Traced first fun id => history id ++ w.issues w' id := by
  have hissues (id : Nat) : w.issues w' id = [] := issues_of_eq (made_entriesOf h.separate ho hr id)
  constructor
  · constructor
    · rw [ho, List.map_append, List.map_singleton, ← List.concat_eq_append]
      apply h.separate.distinct.concat
      intro hm
      obtain ⟨o, homem, hr⟩ := List.mem_map.mp hm
      exact absurd hr (h.separate.present o homem).ne
    · intro o hm
      rw [ho, List.mem_append, List.mem_singleton] at hm
      rw [hr, List.length_append, List.length_singleton]
      obtain hm | rfl := hm
      · exact Nat.lt_succ_of_lt (h.separate.present o hm)
      · exact Nat.lt_succ_self _
  · intro id name' r' hid hown
    rw [hissues, List.append_nil]
    rw [ho] at hown
    obtain hthere | ⟨rfl, hnew⟩ := getElem?_concat_cases hown
    · obtain ⟨t, ht, hf⟩ := h.follows id name' r' hid hthere
      refine ⟨t, ?_, hf⟩
      rw [hr, List.getElem?_append_left (List.getElem?_eq_some_iff.mp ht).1]
      exact ht
    · cases hnew
      refine ⟨.new name 1, ?_, ?_⟩
      · rw [hr, List.getElem?_concat_length]
      · rw [h.unmade _ (Nat.le_refl _)]
        exact .new name 1
  · intro id hid
    rw [ho, List.length_append] at hid
    rw [hissues, List.append_nil]
    exact h.unmade id (Nat.le_of_add_right_le hid)

end Traced

end World

end ForeignBridge
