import ForeignBridge.Proofs.Object.References

/-!
Libraries that count references. What is known of clone and free is what they do with a pointer that has references;
with any other they may do anything. So whatever is shown here of an action holds as well where they do something else
with such pointers: the action never calls them there.
-/

namespace ForeignBridge

open Act

variable {good : NativeHeap → Prop} {refs : Int → NativeHeap → Int}

/-- What clone and free might do with a pointer that has no references. -/
structure Misuse where
  clone : Int → Act (Value × CallStatus)
  free : Int → Act (Value × CallStatus)

/-- The function, but for what it does with a pointer that has no references. -/
def NativeFunction.misused (f : NativeFunction) (refs : Int → NativeHeap → Int)
    (misuse : Int → Act (Value × CallStatus)) : NativeFunction where
  name := f.name
  run args w := if 0 < refs (pointerOf args) w.heap then f.run args w else misuse (pointerOf args) w

namespace ObjectType

/-- The type, but for what its functions do with pointers that have no references. -/
def misused (t : ObjectType) (refs : Int → NativeHeap → Int) (m : Misuse) : ObjectType :=
  { t with clone := t.clone.misused refs m.clone, free := t.free.misused refs m.free }

/-- The functions of a type count references, as long as the native heap is good: a clone adds one and gives the same
pointer, and a free takes one away. Nothing is said of a pointer without references. -/
structure Counts (t : ObjectType) (good : NativeHeap → Prop) (refs : Int → NativeHeap → Int) : Prop where
  clone : ∀ p w, good w.heap → 0 < refs p w.heap → ∃ status w', t.clone.run [.int p] w = .ok (.int p, status) w' ∧
    status.code = CallStatus.success ∧ w'.guards = w.guards ∧ good w'.heap ∧
    ∀ q, refs q w'.heap = refs q w.heap + if p = q then 1 else 0
  free : ∀ p w, good w.heap → 0 < refs p w.heap →
    ((t.free.run [.int p]).after w).guards = w.guards ∧ good ((t.free.run [.int p]).after w).heap ∧
      ∀ q, refs q ((t.free.run [.int p]).after w).heap = refs q w.heap - if p = q then 1 else 0

end ObjectType

/-- How many guards hold a reference to a pointer that they have not freed. -/
def unreleased (p : Int) (guards : List ObjectGuard) : Nat := guards.countP fun g => g.pointer == p && !g.released

namespace ObjectGuard

variable {g g' : ObjectGuard} {guards : List ObjectGuard} {id : Nat}

theorem not_released (hb : 0 ≤ g.borrows.value) : g.released = false := by
  simpa [released] using hb

theorem unreleased_pos (hg : guards[id]? = some g) (hb : 0 ≤ g.borrows.value) : 0 < unreleased g.pointer guards := by
  refine List.countP_pos_iff.mpr ⟨g, List.mem_of_getElem? hg, ?_⟩
  simp [not_released hb]

theorem unreleased_set (hg : guards[id]? = some g) (hp : g'.pointer = g.pointer) (p : Int) :
    (unreleased p (guards.set id g') : Int) = unreleased p guards - (if g.pointer = p ∧ ¬ g.released then 1 else 0) +
      (if g.pointer = p ∧ ¬ g'.released then 1 else 0) := by
  obtain ⟨hi, hgi⟩ := List.getElem?_eq_some_iff.mp hg
  have hle := List.boole_getElem_le_countP (p := fun g : ObjectGuard => g.pointer == p && !g.released) hi
  unfold unreleased
  rw [List.countP_set hi]
  rw [hgi] at hle ⊢
  simp only [hp, Bool.and_eq_true, beq_iff_eq, Bool.not_eq_true', ← Bool.not_eq_true] at hle ⊢
  push_cast [Nat.cast_sub hle]
  rfl

end ObjectGuard

/-- The references of every pointer are those that guards hold, and those of the clones that are out. -/
structure World.Owes (w : World) (good : NativeHeap → Prop) (refs : Int → NativeHeap → Int) (clones : List Int) :
    Prop where
  good : good w.heap
  refs : ∀ p, refs p w.heap = unreleased p w.guards + clones.count p

namespace World.Owes

variable {w w' : World} {g g' : ObjectGuard} {id : Nat} {clones : List Int}

theorem held (h : w.Owes good refs clones) (hg : w.guards[id]? = some g) (hb : 0 ≤ g.borrows.value) :
    0 < refs g.pointer w.heap := by
  have := ObjectGuard.unreleased_pos hg hb
  rw [h.refs]
  omega

/-- A guard that moves without being released does not count. -/
theorem moved (h : w.Owes good refs clones) (hg : w.guards[id]? = some g) (hh : w'.heap = w.heap)
    (hw : w'.guards = w.guards.set id g') (hp : g'.pointer = g.pointer) (hr : g'.released = g.released) :
    w'.Owes good refs clones := by
  refine ⟨hh ▸ h.good, fun p => ?_⟩
  rw [hh, h.refs, hw, ObjectGuard.unreleased_set hg hp, hr]
  ring

end World.Owes

namespace ObjectType

variable {t : ObjectType} {w : World} {g : ObjectGuard} {id : Nat} {p : Int} {clones : List Int}

theorem cloneReference_misused (hp : 0 < refs p w.heap) (m : Misuse) :
    (t.misused refs m).cloneReference p w = t.cloneReference p w := by
  have hrun : (t.misused refs m).clone.run [.int p] w = t.clone.run [.int p] w := if_pos hp
  exact bind_of_eq (Allocator.call_congr (f := t.clone) (g := (t.misused refs m).clone) rfl hrun t.allocator none) _

theorem freeReference_misused (hp : 0 < refs p w.heap) (m : Misuse) :
    (t.misused refs m).freeReference p w = t.freeReference p w := by
  have hrun : (t.misused refs m).free.run [.int p] w = t.free.run [.int p] w := if_pos hp
  exact bind_of_eq (Allocator.call_congr (f := t.free) (g := (t.misused refs m).free) rfl hrun t.allocator none) _

theorem cloneReference_counted (ht : t.Counts good refs) (hw : good w.heap) (hp : 0 < refs p w.heap) :
    ∃ w', t.cloneReference p w = .ok p w' ∧ w'.guards = w.guards ∧ good w'.heap ∧
      ∀ q, refs q w'.heap = refs q w.heap + if p = q then 1 else 0 := by
  obtain ⟨status, w', hrun, hs, hg, hgood, hq⟩ := ht.clone p w hw hp
  exact ⟨w', bind_of_ok (Allocator.call_of_success hrun hs t.allocator none), hg, hgood, hq⟩

theorem freeReference_counted (ht : t.Counts good refs) (hw : good w.heap) (hp : 0 < refs p w.heap) :
    ((t.freeReference p).after w).guards = w.guards ∧ good ((t.freeReference p).after w).heap ∧
      ∀ q, refs q ((t.freeReference p).after w).heap = refs q w.heap - if p = q then 1 else 0 := by
  have hh : ((t.freeReference p).after w).heap = ((t.free.run [.int p]).after w).heap :=
    (Apart.heap fun h => h).freeReference_after t p w
  rw [Apart.guards.freeReference_after, hh]
  exact ht.free p w hw hp

/-- A borrow given back takes the guard's reference with it if it was the last one. -/
theorem releaseBorrow_owes (ht : t.Counts good refs) (hw : w.Owes good refs clones) (hg : w.guards[id]? = some g)
    (hb : 0 ≤ g.borrows.value) :
    (∀ m, (t.misused refs m).releaseBorrow id w = t.releaseBorrow id w) ∧
      ((t.releaseBorrow id).after w).guards = w.guards.set id g.giveBack.2 ∧
      ((t.releaseBorrow id).after w).Owes good refs clones := by
  cases hlast : g.giveBack.1 with
  | false =>
    have hkept : g.giveBack.2.released = g.released := by
      rw [← Bool.not_eq_true, ObjectGuard.giveBack_fst] at hlast
      rw [ObjectGuard.not_released hb]
      exact ObjectGuard.not_released (by rw [ObjectGuard.giveBack_borrows]; omega)
    refine ⟨fun m => ?_, ?_⟩
    · rw [releaseBorrow_kept _ hg hlast, releaseBorrow_kept _ hg hlast]
    · rw [after_of_ok (t.releaseBorrow_kept hg hlast)]
      exact ⟨rfl, hw.moved hg rfl rfl (ObjectGuard.giveBack_pointer g) hkept⟩
  | true =>
    have hfreed : g.giveBack.2.released = true := by
      rw [ObjectGuard.giveBack_fst] at hlast
      simp [ObjectGuard.released, hlast]
    let v : World :=
      { w with
        guards := w.guards.set id g.giveBack.2
        log := w.log ++ [⟨.debug, .objects, s!"Freeing {t.name} object {pointerText g.pointer}"⟩] }
    have hheld : 0 < refs g.pointer v.heap := hw.held hg hb
    obtain ⟨hguards, hgood, hq⟩ := freeReference_counted (w := v) ht hw.good hheld
    refine ⟨fun m => ?_, ?_⟩
    · rw [releaseBorrow_last _ hg hlast, releaseBorrow_last _ hg hlast]
      exact freeReference_misused (w := v) hheld m
    have hafter : (t.releaseBorrow id).after w = (t.freeReference g.pointer).after v := by
      unfold after
      rw [t.releaseBorrow_last hg hlast]
    rw [hafter]
    refine ⟨hguards, hgood, fun p => ?_⟩
    have hp : refs p v.heap = _ := hw.refs p
    rw [hq p, hp, hguards, ObjectGuard.unreleased_set hg (ObjectGuard.giveBack_pointer g), hfreed,
      ObjectGuard.not_released hb]
    by_cases hpq : g.pointer = p <;> simp [hpq]
    ring

/-- A clone comes to nothing, or one more reference and one more borrow are out. -/
theorem clonePointer_owes (ht : t.Counts good refs) (hw : w.Owes good refs clones) (id : Nat) :
    (∃ f, t.clonePointer id w = .error f w ∧ ∀ m, (t.misused refs m).clonePointer id w = .error f w) ∨
    ∃ g w', w.guards[id]? = some g ∧ 0 ≤ g.borrows.value ∧ t.clonePointer id w = .ok g.pointer w' ∧
      (∀ m, (t.misused refs m).clonePointer id w = .ok g.pointer w') ∧
      w'.guards = w.guards.set id { g with borrows := ⟨g.borrows.value + 1⟩ } ∧
      w'.Owes good refs (g.pointer :: clones) := by
  cases hg : w.guards[id]? with
  | none =>
    have hd : guardOf id w = .ok default w := by rw [guardOf_eq, hg, Option.getD_none]
    exact .inl ⟨_, (bind_of_ok hd).trans rfl, fun m => (bind_of_ok hd).trans rfl⟩
  | some g =>
    cases htake : g.take t.name with
    | error f => exact .inl ⟨f, t.clonePointer_refused hg htake, fun _ => clonePointer_refused _ hg htake⟩
    | ok taken =>
      obtain ⟨hb, rfl⟩ := ObjectGuard.take_eq_ok htake
      let taken : ObjectGuard := { g with borrows := ⟨g.borrows.value + 1⟩ }
      let v : World := { w with guards := w.guards.set id taken }
      have hkept : taken.released = g.released := by
        rw [ObjectGuard.not_released hb]
        exact ObjectGuard.not_released (Int.le_add_one hb)
      have hv : v.Owes good refs clones := hw.moved hg rfl rfl rfl hkept
      have hheld : 0 < refs g.pointer v.heap := hw.held hg hb
      obtain ⟨w', hclone, hguards, hgood, hq⟩ := cloneReference_counted ht hv.good hheld
      refine .inr ⟨g, w', rfl, hb, ?_, fun m => ?_, hguards, hgood, fun p => ?_⟩
      · rw [t.clonePointer_taken hg htake, World.onFailure, hclone]
      · rw [(t.misused refs m).clonePointer_taken hg htake, World.onFailure, cloneReference_misused hheld m, hclone]
      · rw [hq p, hguards, hv.refs p, List.count_cons, Nat.cast_add, add_assoc]
        simp

end ObjectType

namespace NativeHeap

/-- No outcome is scripted, so that the counting functions count. -/
def Unscripted (h : NativeHeap) : Prop := h.cloneFaults = [] ∧ h.freeFaults = []

end NativeHeap

theorem countingClone_unscripted {w : World} (h : w.heap.cloneFaults = []) (p : Int) :
    countingClone.run [.int p] w = .ok (.int p, .fresh) { w with heap := w.heap.retain p } :=
  (bind_of_ok (popFault_nil h)).trans rfl

theorem countingFree_unscripted {w : World} (h : w.heap.freeFaults = []) (p : Int) :
    countingFree.run [.int p] w = .ok (.null, .fresh) { w with heap := w.heap.release p } :=
  (bind_of_ok (popFault_nil h)).trans rfl

/-- Counting functions count references, as long as nothing is scripted for them. -/
theorem counting_counts (name : String) (a : Allocator) :
    (ObjectType.mk name countingClone countingFree a).Counts NativeHeap.Unscripted NativeHeap.countOf where
  clone p w hw _ :=
    ⟨.fresh, _, countingClone_unscripted hw.1 p, rfl, rfl, hw, NativeHeap.countOf_retain w.heap p⟩
  free p w hw _ := by
    rw [after_of_ok (countingFree_unscripted hw.2 p)]
    exact ⟨rfl, hw, NativeHeap.countOf_release w.heap p⟩

end ForeignBridge
