import ForeignBridge.Object.Lifetime
import ForeignBridge.Proofs.Frame
import Mathlib.Tactic

/-!
The native functions behind an object. Cloning and freeing may come to anything; what matters of them is
that they leave guards alone and that their calls can be counted, as those of the counting functions can.
-/

namespace ForeignBridge

open Act

namespace Apart

theorem heap {γ : Type} (view : NativeHeap → γ) : Apart fun w => view w.heap := ⟨fun _ _ => rfl, fun _ _ => rfl, fun _ _ => rfl⟩

theorem guards : Apart World.guards := ⟨fun _ _ => rfl, fun _ _ => rfl, fun _ _ => rfl⟩

theorem registries : Apart World.registries := ⟨fun _ _ => rfl, fun _ _ => rfl, fun _ _ => rfl⟩

/-- After a call, a view that buffers are no part of is as the function itself left it. -/
theorem call_after {γ : Type} {view : World → γ} (hv : Apart view) (a : Allocator) (f : NativeFunction)
    (args : List Value) (errors : Option Shape) (w : World) :
    view ((a.call f args errors).after w) = view ((f.run args).after w) := by
  have hi : view ((a.invoke f args errors).after w) = view ((f.run args).after w) := by
    refine after_bind (fun p => ?_) w
    refine .bind (.onFailure (hv.settle a errors p.2) (hv.noteFailedCall f.name)) fun r => ?_
    cases r <;> exact .pure _
  refine (after_bind (fun o => ?_) w).trans hi
  cases o with
  | ok v => exact .pure v
  | err e => exact .throw _

theorem cloneReference_after {γ : Type} {view : World → γ} (hv : Apart view) (t : ObjectType) (pointer : Int)
    (w : World) : view ((t.cloneReference pointer).after w) = view ((t.clone.run [.int pointer]).after w) :=
  (after_bind (fun _ => .pure _) w).trans (hv.call_after _ _ _ _ w)

theorem freeReference_after {γ : Type} {view : World → γ} (hv : Apart view) (t : ObjectType) (pointer : Int)
    (w : World) : view ((t.freeReference pointer).after w) = view ((t.free.run [.int pointer]).after w) :=
  (after_bind (fun _ => .pure _) w).trans (hv.call_after _ _ _ _ w)

end Apart

namespace ObjectType

/-- The functions of a type count how often they are run on a pointer, and leave guards alone. -/
structure CountsCalls (t : ObjectType) (pointer : Int) (clones frees : NativeHeap → Int) : Prop where
  clone_guards : (t.clone.run [.int pointer]).Keeps World.guards
  clone_clones : ∀ w, clones ((t.clone.run [.int pointer]).after w).heap = clones w.heap + 1
  clone_frees : (t.clone.run [.int pointer]).Keeps fun w => frees w.heap
  free_guards : (t.free.run [.int pointer]).Keeps World.guards
  free_clones : (t.free.run [.int pointer]).Keeps fun w => clones w.heap
  free_frees : ∀ w, frees ((t.free.run [.int pointer]).after w).heap = frees w.heap + 1

end ObjectType

namespace NativeHeap

/-- The count of a pointer, with every entry for it. -/
def counted (pointer : Int) (counts : List (Int × Int)) : Int :=
  ((counts.filter (·.1 == pointer)).map Prod.snd).sum

theorem counted_add (pointer amount : Int) (counts : List (Int × Int)) :
    counted pointer (add pointer amount counts) = counted pointer counts + amount := by
  induction counts with
  | nil => simp [add, counted]
  | cons c rest ih =>
    obtain ⟨p, n⟩ := c
    unfold add
    split
    · rename_i h
      simp [counted, h]
      ring
    · split
      · simp [counted]
        ring
      · rename_i h _
        simpa [counted, h] using ih

theorem counted_add_other {p pointer : Int} (h : p ≠ pointer) (amount : Int) (counts : List (Int × Int)) :
    counted pointer (add p amount counts) = counted pointer counts := by
  induction counts with
  | nil => simp [add, counted, h]
  | cons c rest ih =>
    obtain ⟨q, n⟩ := c
    unfold add
    split
    · rename_i hq
      simp [counted, hq, h]
    · split
      · simp [counted, h]
      · by_cases hq : q = pointer
        · simpa [counted, hq] using ih
        · simpa [counted, hq] using ih

/-- How often a pointer was to be cloned: what it counts, what was freed of it, and the clones that a script
made fail, less those that the script still holds. -/
def clonesTried (pointer : Int) (h : NativeHeap) : Int :=
  counted pointer h.counts + h.frees.count pointer - h.cloneFaults.countP (·.isSome)

def freesTried (pointer : Int) (h : NativeHeap) : Int :=
  h.frees.count pointer - h.freeFaults.countP (·.isSome)

end NativeHeap

theorem popFault_nil {script : World → FaultScript} {store : World → FaultScript → World} {w : World}
    (h : script w = []) : popFault script store w = .ok none w := by
  refine (bind_of_ok (v := w) rfl).trans ?_
  rw [h]
  rfl

theorem popFault_cons {script : World → FaultScript} {store : World → FaultScript → World} {w : World}
    {o : Option NativeOutcome} {rest : FaultScript} (h : script w = o :: rest) :
    popFault script store w = .ok o (store w rest) := by
  refine (bind_of_ok (v := w) rfl).trans ?_
  rw [h]
  rfl

/-- A counting clone runs a scripted outcome if there is one, and else adds a reference and reports success. -/
theorem countingClone_run (w : World) (pointer : Int) :
    ∃ r status a, countingClone.run [.int pointer] w = .ok (r, status) { w with
      arena := a,
      heap := match w.heap.cloneFaults with
        | [] => w.heap.retain pointer
        | none :: rest => { w.heap with cloneFaults := rest }.retain pointer
        | some _ :: rest => { w.heap with cloneFaults := rest } } ∧
      status.code = match w.heap.cloneFaults with
        | some o :: _ => signedOf 1 (residueOf 1 o.code)
        | _ => CallStatus.success := by
  cases h : w.heap.cloneFaults with
  | nil => exact ⟨_, _, w.arena, (bind_of_ok (popFault_nil h)).trans rfl, rfl⟩
  | cons o rest =>
    cases o with
    | none => exact ⟨_, _, w.arena, (bind_of_ok (popFault_cons h)).trans rfl, rfl⟩
    | some o =>
      refine ⟨_, (o.write w.arena).1, (o.write w.arena).2, (bind_of_ok (popFault_cons h)).trans rfl, ?_⟩
      unfold NativeOutcome.write
      cases o.payload <;> rfl

theorem countingClone_after (w : World) (pointer : Int) :
    ∃ a, (countingClone.run [.int pointer]).after w = { w with
      arena := a,
      heap := match w.heap.cloneFaults with
        | [] => w.heap.retain pointer
        | none :: rest => { w.heap with cloneFaults := rest }.retain pointer
        | some _ :: rest => { w.heap with cloneFaults := rest } } := by
  obtain ⟨_, _, a, h, -⟩ := countingClone_run w pointer
  exact ⟨a, after_of_ok h⟩

theorem countingFree_after (w : World) (pointer : Int) :
    ∃ a, (countingFree.run [.int pointer]).after w = { w with
      arena := a,
      heap := match w.heap.freeFaults with
        | [] => w.heap.release pointer
        | none :: rest => { w.heap with freeFaults := rest }.release pointer
        | some _ :: rest => { w.heap with freeFaults := rest } } := by
  cases h : w.heap.freeFaults with
  | nil => exact ⟨w.arena, after_of_ok ((bind_of_ok (popFault_nil h)).trans rfl)⟩
  | cons o rest =>
    cases o with
    | none => exact ⟨w.arena, after_of_ok ((bind_of_ok (popFault_cons h)).trans rfl)⟩
    | some o => exact ⟨(o.write w.arena).2, after_of_ok ((bind_of_ok (popFault_cons h)).trans rfl)⟩

/-- Counting native functions count their calls, whatever outcomes are scripted for them. -/
theorem counting_countsCalls (name : String) (a : Allocator) (pointer : Int) :
    (ObjectType.mk name countingClone countingFree a).CountsCalls pointer
      (NativeHeap.clonesTried pointer) (NativeHeap.freesTried pointer) where
  clone_guards w := by
    obtain ⟨arena, h⟩ := countingClone_after w pointer
    rw [h]
  clone_clones w := by
    obtain ⟨arena, h⟩ := countingClone_after w pointer
    rw [h]
    dsimp only
    split <;> rename_i hs <;>
      simp [NativeHeap.clonesTried, NativeHeap.retain, NativeHeap.counted_add, hs] <;> ring
  clone_frees w := by
    obtain ⟨arena, h⟩ := countingClone_after w pointer
    rw [h]
    dsimp only
    split <;> rfl
  free_guards w := by
    obtain ⟨arena, h⟩ := countingFree_after w pointer
    rw [h]
  free_clones w := by
    obtain ⟨arena, h⟩ := countingFree_after w pointer
    rw [h]
    dsimp only
    split <;> simp [NativeHeap.clonesTried, NativeHeap.release, NativeHeap.counted_add] <;> ring
  free_frees w := by
    obtain ⟨arena, h⟩ := countingFree_after w pointer
    rw [h]
    dsimp only
    split <;> rename_i hs <;> simp [NativeHeap.freesTried, NativeHeap.release, hs] <;> ring

end ForeignBridge
