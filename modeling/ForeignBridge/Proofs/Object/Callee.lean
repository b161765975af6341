import ForeignBridge.Proofs.Object.Balance

/-!
Native functions that take over references and hand over others. A call consumes the clones that it is given, whatever
it comes to, and new references come with its result if it succeeds.
-/

namespace ForeignBridge

open Act

/-- The references that come with what a function leaves: those of its result, if it reports success. -/
def givenWith (gives : Value → List Int) : EStateM.Result Failure World (Value × CallStatus) → List Int
  | .ok (v, status) _ => if status.code = CallStatus.success then gives v else []
  | .error .. => []

/-- A native function that takes over clones among its arguments, and hands over references with its result. -/
structure Callee (good : NativeHeap → Prop) (refs : Int → NativeHeap → Int) where
  fn : NativeFunction
  /-- the clones among its arguments, which it consumes -/
  takes : List Value → List Int
  /-- the references that come with a result -/
  gives : Value → List Int
  guards : ∀ args, (fn.run args).Keeps World.guards
  stays : ∀ args w, good w.heap → (∀ p, (takes args).count p ≤ refs p w.heap) → good ((fn.run args).after w).heap
  counts : ∀ args w, good w.heap → (∀ p, (takes args).count p ≤ refs p w.heap) → ∀ p,
    refs p ((fn.run args).after w).heap =
      refs p w.heap - (takes args).count p + (givenWith gives (fn.run args w)).count p

/-- A function that makes new objects: a pointer that had no references starts with one. -/
structure Constructor (good : NativeHeap → Prop) (refs : Int → NativeHeap → Int) extends Callee good refs where
  takes_nothing : ∀ args, takes args = []
  gives_pointer : ∀ p, gives (.int p) = [p]
  starts : ∀ args w v status w', good w.heap → fn.run args w = .ok (v, status) w' → status.code = CallStatus.success →
    ∃ p, v = .int p ∧ refs p w.heap = 0

namespace Callee

variable {good : NativeHeap → Prop} {refs : Int → NativeHeap → Int} {f : Callee good refs} {a : Allocator}
  {w w' : World} {args : List Value} {errors : Option Shape} {v : Value} {e : Failure}

/-- With the result of a call come the references of that result. -/
theorem givenWith_of_ok (h : a.call f.fn args errors w = .ok v w') :
    givenWith f.gives (f.fn.run args w) = f.gives v := by
  obtain ⟨status, hrun, hs⟩ := Allocator.call_eq_ok h
  rw [hrun, givenWith, if_pos hs]

theorem givenWith_of_error (h : a.call f.fn args errors w = .error e w') :
    givenWith f.gives (f.fn.run args w) = [] := by
  cases hrun : f.fn.run args w with
  | error e' w₁ => rfl
  | ok result w₁ =>
    obtain ⟨v, status⟩ := result
    refine if_neg fun hs => ?_
    cases (Allocator.call_of_success hrun hs a errors).symm.trans h

/-- A call takes over the clones it is given, and gives out those that come with its result. -/
theorem call_balanced (f : Callee good refs) {borrows : List Nat} {clones : List Int}
    (h : w.Balanced good refs borrows clones) (hclones : (f.takes args).Subperm clones) (a : Allocator)
    (errors : Option Shape) :
    ((a.call f.fn args errors).after w).Balanced good refs borrows
      (givenWith f.gives (f.fn.run args w) ++ clones.diff (f.takes args)) := by
  have hle (p : Int) : (f.takes args).count p ≤ refs p w.heap := by
    have := hclones.count_le p
    rw [h.owes.refs p]
    omega
  have hheap : ((a.call f.fn args errors).after w).heap = ((f.fn.run args).after w).heap :=
    (Apart.heap fun h => h).call_after a f.fn args errors w
  have hguards : ((a.call f.fn args errors).after w).guards = w.guards :=
    (Apart.guards.call_after a f.fn args errors w).trans (f.guards args w)
  refine ⟨⟨?_, fun p => ?_⟩, ?_⟩
  · rw [hheap]
    exact f.stays args w h.owes.good hle
  · have hcount := hclones.count_le p
    rw [hheap, f.counts args w h.owes.good hle p, h.owes.refs p, hguards, List.count_append, List.count_diff]
    omega
  · rw [hguards]
    exact h.tallied

end Callee

/-- Makes an object at an address that is free. -/
def countingMint : NativeFunction where
  name := "mint"
  run args w :=
    if w.heap.countOf (pointerOf args) = 0 then
      .ok (.int (pointerOf args), .fresh) { w with heap := w.heap.retain (pointerOf args) }
    else .ok (.null, ⟨CallStatus.unexpectedError, .null⟩) w

theorem countingMint_cases (args : List Value) (w : World) :
    (w.heap.countOf (pointerOf args) = 0 ∧ countingMint.run args w =
      .ok (.int (pointerOf args), .fresh) { w with heap := w.heap.retain (pointerOf args) }) ∨
    countingMint.run args w = .ok (.null, ⟨CallStatus.unexpectedError, .null⟩) w := by
  by_cases hfree : w.heap.countOf (pointerOf args) = 0
  · exact .inl ⟨hfree, if_pos hfree⟩
  · exact .inr (if_neg hfree)

def mint : Constructor NativeHeap.Unscripted NativeHeap.countOf where
  fn := countingMint
  takes _ := []
  gives
    | .int p => [p]
    | _ => []
  guards args w := by
    obtain ⟨-, hr⟩ | hr := countingMint_cases args w <;> rw [after_of_ok hr]
  stays args w hw _ := by
    obtain ⟨-, hr⟩ | hr := countingMint_cases args w
    · rw [after_of_ok hr]
      exact hw
    · rw [after_of_ok hr]
      exact hw
  counts args w _ _ q := by
    obtain ⟨-, hr⟩ | hr := countingMint_cases args w
    · rw [after_of_ok hr, hr]
      simp [givenWith, NativeHeap.countOf_retain, CallStatus.fresh, CallStatus.success, List.count_singleton]
    · rw [after_of_ok hr, hr]
      simp [givenWith, CallStatus.success, CallStatus.unexpectedError]
  takes_nothing _ := rfl
  gives_pointer _ := rfl
  starts args w v status w' _ h hs := by
    obtain ⟨hfree, hr⟩ | hr := countingMint_cases args w
    · cases hr.symm.trans h
      exact ⟨_, rfl, hfree⟩
    · cases hr.symm.trans h
      cases hs

/-- Spends the object it is given. -/
def spend : Callee NativeHeap.Unscripted NativeHeap.countOf where
  fn :=
    { name := "spend"
      run := fun args w => .ok (.null, .fresh) { w with heap := w.heap.release (pointerOf args) } }
  takes args := [pointerOf args]
  gives _ := []
  guards _ _ := rfl
  stays _ _ hw _ := hw
  counts args w _ _ q := by
    have hr := NativeHeap.countOf_release w.heap (pointerOf args) q
    simpa [after, givenWith, List.count_singleton] using hr

end ForeignBridge
