import ForeignBridge.Proofs.Object.Counted

/-!
The balance of native references. The books of a session are the borrows that are open and the clones that are out; they
balance if every guard counts its borrows and every pointer has the references that the guards and the clones stand for.
Whatever is done with a reference keeps the books balanced, and never calls clone or free with a pointer that has no
references.
-/

namespace ForeignBridge

open Act

variable {good : NativeHeap → Prop} {refs : Int → NativeHeap → Int}

/-- The count of every guard is that of its open borrows, less one once it is destroyed. -/
structure Tallied (guards : List ObjectGuard) (borrows : List Nat) : Prop where
  count : ∀ id (g : ObjectGuard), guards[id]? = some g →
    g.borrows.value = borrows.count id - (if g.destroyed.isSet then 1 else 0)
  known : ∀ id ∈ borrows, id < guards.length

namespace Tallied

variable {guards : List ObjectGuard} {borrows after : List Nat} {g : ObjectGuard} {id : Nat}

theorem set (h : Tallied guards borrows) (hid : id < guards.length) (hother : ∀ j ≠ id, after.count j = borrows.count j)
    (hg : g.borrows.value = after.count id - (if g.destroyed.isSet then 1 else 0)) :
    Tallied (guards.set id g) after where
  count j k hk := by
    by_cases hj : id = j
    · subst hj
      rw [List.getElem?_set_self hid] at hk
      cases hk
      exact hg
    · rw [List.getElem?_set_ne hj] at hk
      rw [hother j (Ne.symm hj)]
      exact h.count j k hk
  known j hj := by
    rw [List.length_set]
    by_cases hne : j = id
    · rwa [hne]
    · refine h.known j (List.count_pos_iff.mp ?_)
      rw [← hother j hne]
      exact List.count_pos_iff.mpr hj

/-- New guards have no borrows. -/
theorem append (h : Tallied guards borrows) {new : List ObjectGuard}
    (hnew : ∀ g ∈ new, g.borrows.value = 0 ∧ g.destroyed.isSet = false) : Tallied (guards ++ new) borrows where
  count j k hk := by
    by_cases hj : j < guards.length
    · rw [List.getElem?_append_left hj] at hk
      exact h.count j k hk
    · rw [List.getElem?_append_right (Nat.le_of_not_lt hj)] at hk
      obtain ⟨hb, hd⟩ := hnew k (List.mem_of_getElem? hk)
      have hnone : borrows.count j = 0 := List.count_eq_zero.mpr fun hm => hj (h.known j hm)
      rw [hb, hd, hnone]
      rfl
  known j hj := by
    rw [List.length_append]
    exact Nat.lt_add_right _ (h.known j hj)

/-- A guard that is borrowed is not released. -/
theorem borrowed (h : Tallied guards borrows) (hid : id ∈ borrows) :
    ∃ g, guards[id]? = some g ∧ 0 ≤ g.borrows.value := by
  have hl := h.known id hid
  refine ⟨guards[id], List.getElem?_eq_getElem hl, ?_⟩
  have hpos : 0 < borrows.count id := List.count_pos_iff.mpr hid
  rw [h.count id _ (List.getElem?_eq_getElem hl)]
  split_ifs <;> omega

end Tallied

/-- The books balance: the borrows are those that the guards count, and the references of every pointer those that the
guards and the clones stand for. -/
structure World.Balanced (w : World) (good : NativeHeap → Prop) (refs : Int → NativeHeap → Int) (borrows : List Nat)
    (clones : List Int) : Prop where
  owes : w.Owes good refs clones
  tallied : Tallied w.guards borrows

namespace World.Balanced

variable {w w' : World} {borrows : List Nat} {clones : List Int}

theorem of_eq (h : w.Balanced good refs borrows clones) (hh : w'.heap = w.heap) (hg : w'.guards = w.guards) :
    w'.Balanced good refs borrows clones := by
  refine ⟨⟨hh ▸ h.owes.good, fun p => ?_⟩, hg ▸ h.tallied⟩
  rw [hh, hg, h.owes.refs]

/-- Clones that get guards of their own change hands. -/
theorem wrapped (h : w.Balanced good refs borrows clones) {new : List ObjectGuard}
    (hnew : ∀ g ∈ new, g.borrows.value = 0 ∧ g.destroyed.isSet = false)
    (hclones : (new.map ObjectGuard.pointer).Subperm clones) (hh : w'.heap = w.heap)
    (hg : w'.guards = w.guards ++ new) :
    w'.Balanced good refs borrows (clones.diff (new.map ObjectGuard.pointer)) := by
  refine ⟨⟨hh ▸ h.owes.good, fun p => ?_⟩, hg ▸ h.tallied.append hnew⟩
  have hcount : unreleased p new = (new.map ObjectGuard.pointer).count p := by
    rw [List.count, List.countP_map]
    refine List.countP_congr fun g hm => ?_
    simp [ObjectGuard.not_released (hnew g hm).1.ge]
  have hle := hclones.count_le p
  have happend : unreleased p (w.guards ++ new) = unreleased p w.guards + unreleased p new := List.countP_append
  rw [hh, h.owes.refs, hg, happend, hcount, List.count_diff]
  omega

theorem lifted (h : w.Balanced good refs borrows clones) {p : Int} (hp : p ∈ clones) {maxBorrows : Int}
    (hh : w'.heap = w.heap) (hg : w'.guards = w.guards ++ [.new p maxBorrows]) :
    w'.Balanced good refs borrows (clones.erase p) := by
  have hone : clones.erase p = clones.diff ([ObjectGuard.new p maxBorrows].map ObjectGuard.pointer) := by
    rw [List.map_singleton, List.diff_cons, List.diff_nil]
    rfl
  rw [hone]
  refine h.wrapped ?_ (List.singleton_subperm_iff.mpr hp) hh hg
  intro g hm
  rw [List.mem_singleton.mp hm]
  exact ⟨rfl, rfl⟩

end World.Balanced

namespace ObjectType

variable {t : ObjectType} {w : World} {id : Nat} {borrows : List Nat} {clones : List Int}

theorem releaseBorrow_balanced (ht : t.Counts good refs) (h : w.Balanced good refs borrows clones)
    (hid : id ∈ borrows) :
    (∀ m, (t.misused refs m).releaseBorrow id w = t.releaseBorrow id w) ∧
      ((t.releaseBorrow id).after w).Balanced good refs (borrows.erase id) clones := by
  obtain ⟨g, hg, hb⟩ := h.tallied.borrowed hid
  obtain ⟨hsame, hguards, howes⟩ := releaseBorrow_owes ht h.owes hg hb
  refine ⟨hsame, howes, ?_⟩
  rw [hguards]
  refine h.tallied.set (h.tallied.known id hid) (fun j hj => List.count_erase_of_ne hj) ?_
  have hpos : 0 < borrows.count id := List.count_pos_iff.mpr hid
  rw [ObjectGuard.giveBack_borrows, ObjectGuard.giveBack_destroyed, h.tallied.count id g hg, List.count_erase_self]
  omega

/-- A borrow is refused, or there is one more, which giving it back at once would undo. -/
theorem clonePointer_balanced (ht : t.Counts good refs) (h : w.Balanced good refs borrows clones) (id : Nat) :
    (∃ f, t.clonePointer id w = .error f w ∧ ∀ m, (t.misused refs m).clonePointer id w = .error f w) ∨
    ∃ g w', w.guards[id]? = some g ∧ t.clonePointer id w = .ok g.pointer w' ∧
      (∀ m, (t.misused refs m).clonePointer id w = .ok g.pointer w') ∧
      w'.Balanced good refs (id :: borrows) (g.pointer :: clones) ∧
      ∀ u : ObjectType, u.releaseBorrow id w' = .ok () { w' with guards := w.guards } := by
  obtain hf | ⟨g, w', hg, hb, hr, hsame, hguards, howes⟩ := clonePointer_owes ht h.owes id
  · exact .inl hf
  refine .inr ⟨g, w', hg, hr, hsame, ⟨howes, ?_⟩, fun u => u.releaseBorrow_borrowed hg hb hguards⟩
  rw [hguards]
  refine h.tallied.set (List.getElem?_eq_some_iff.mp hg).1 (fun j hj => List.count_cons_of_ne (Ne.symm hj)) ?_
  dsimp only
  rw [h.tallied.count id g hg, List.count_cons_self]
  omega

theorem destroy_balanced (ht : t.Counts good refs) (h : w.Balanced good refs borrows clones)
    (hid : id < w.guards.length) :
    (∀ m, (t.misused refs m).destroy id w = t.destroy id w) ∧
      ((t.destroy id).after w).Balanced good refs borrows clones := by
  have hg : w.guards[id]? = some w.guards[id] := List.getElem?_eq_getElem hid
  generalize w.guards[id] = g at hg
  cases hd : g.destroyed.isSet with
  | true =>
    refine ⟨fun m => ?_, ?_⟩
    · rw [destroy_again _ hg hd, destroy_again _ hg hd]
    · rw [after_of_ok (t.destroy_again hg hd)]
      exact h
  | false =>
    let marked : ObjectGuard := { g with destroyed := ⟨true⟩ }
    let v : World := { w with guards := w.guards.set id marked }
    have hcount := h.tallied.count id g hg
    have hb : 0 ≤ marked.borrows.value := by
      change 0 ≤ g.borrows.value
      rw [hcount, hd]
      simp
    have hv : v.Owes good refs clones := h.owes.moved hg rfl rfl rfl rfl
    have hgv : v.guards[id]? = some marked := List.getElem?_set_self hid
    obtain ⟨hsame, hguards, howes⟩ := releaseBorrow_owes ht hv hgv hb
    refine ⟨fun m => ?_, ?_⟩
    · rw [destroy_first _ hg hd, destroy_first _ hg hd]
      exact bind_of_eq (hsame m) _
    rw [t.destroy_first_after hg hd]
    refine ⟨howes, ?_⟩
    rw [hguards, List.set_set]
    refine h.tallied.set hid (fun _ _ => rfl) ?_
    rw [ObjectGuard.giveBack_borrows, ObjectGuard.giveBack_destroyed]
    change g.borrows.value - 1 = _
    rw [hcount, hd]
    simp [marked]

end ObjectType

end ForeignBridge
