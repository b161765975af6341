import ForeignBridge.Proofs.Object.Lifetime

/-!
The references that a clone adds. Whatever counts the references on the native side, cloning one adds to the count
just if the native function reports success.
-/

namespace ForeignBridge

open Act

variable {good : NativeHeap → Prop} {refs : Int → NativeHeap → Int}

namespace Allocator

variable {a : Allocator} {f g : NativeFunction} {args : List Value} {v : Value} {w w' : World}

/-- Where no error is declared, only success is no failure. -/
theorem settle_failed (a : Allocator) {status : CallStatus} (h : status.code ≠ CallStatus.success)
    (w : World) : ∃ f w', a.settle none status w = .error f w' := by
  unfold settle settleWith
  rw [if_neg h]
  split
  · exact bind_throw _ (fun _ => .undeclaredError) w
  split
  · split
    · exact bind_throw _ .panic w
    · split
      · exact bind_throw _ (fun _ => .faultWhileHandlingFault) w
      · exact ⟨_, _, rfl⟩
  · exact ⟨_, _, rfl⟩

theorem call_of_success {status : CallStatus} (h : f.run args w = .ok (v, status) w')
    (hs : status.code = CallStatus.success) (a : Allocator) (errors : Option Shape) :
    a.call f args errors w = .ok v w' := by
  have hsettle : World.onFailure (a.settle errors status) (noteFailedCall f.name) w' = .ok none w' := by
    unfold World.onFailure settle settleWith
    rw [if_pos hs]
    rfl
  have hi : a.invoke f args errors w = .ok (.ok v) w' := (bind_of_ok h).trans (bind_of_ok hsettle)
  exact bind_of_ok hi

theorem settle_none {errors : Option Shape} {s : CallStatus} (h : a.settle errors s w = .ok none w') :
    s.code = CallStatus.success ∧ w' = w := by
  unfold settle settleWith at h
  split_ifs at h with hs hd hf hl
  · cases h
    exact ⟨hs, rfl⟩
  · cases errors with
    | none =>
      obtain ⟨_, _, -, h⟩ := bind_eq_ok h
      cases h
    | some shape =>
      obtain ⟨_, _, -, h⟩ := bind_eq_ok h
      cases h
  · obtain ⟨_, _, -, h⟩ := bind_eq_ok h
    cases h
  · obtain ⟨_, _, -, h⟩ := bind_eq_ok h
    cases h
  · cases h
  · cases h

/-- A call that gives a value is one that reported success. -/
theorem call_eq_ok {errors : Option Shape} (h : a.call f args errors w = .ok v w') :
    ∃ status, f.run args w = .ok (v, status) w' ∧ status.code = CallStatus.success := by
  obtain ⟨outcome, w₁, hi, ho⟩ := bind_eq_ok h
  cases outcome with
  | err e => cases ho
  | ok r =>
    cases ho
    obtain ⟨⟨r, status⟩, w₂, hrun, hs⟩ := bind_eq_ok hi
    obtain ⟨e, w₃, hsettle, he⟩ := bind_eq_ok hs
    cases e with
    | some e => cases he
    | none =>
      cases he
      cases hn : a.settle errors status w₂ with
      | error e w₄ =>
        obtain ⟨e', w₅, h'⟩ := onFailure_of_error hn (noteFailedCall f.name)
        cases h'.symm.trans hsettle
      | ok e w₄ =>
        simp only [World.onFailure, hn] at hsettle
        cases hsettle
        obtain ⟨hc, rfl⟩ := settle_none hn
        exact ⟨status, hrun, hc⟩

theorem call_congr (hn : g.name = f.name) (h : g.run args w = f.run args w) (a : Allocator) (errors : Option Shape) :
    a.call g args errors w = a.call f args errors w := by
  have hi : a.invoke g args errors w = a.invoke f args errors w := by
    unfold invoke
    rw [hn]
    exact bind_of_eq h _
  exact bind_of_eq hi _

end Allocator

namespace ObjectType

/-- A clone function adds a reference just if it reports success, and leaves guards and registries alone. -/
structure Retains (t : ObjectType) (good : NativeHeap → Prop) (refs : Int → NativeHeap → Int) : Prop where
  guards : ∀ p, (t.clone.run [.int p]).Keeps World.guards
  registries : ∀ p, (t.clone.run [.int p]).Keeps World.registries
  stays : ∀ p w, good w.heap → good ((t.clone.run [.int p]).after w).heap
  ok : ∀ p w r status w', good w.heap → t.clone.run [.int p] w = .ok (r, status) w' → ∀ q,
    refs q w'.heap = refs q w.heap + if status.code = CallStatus.success ∧ p = q then 1 else 0
  error : ∀ p w f w', good w.heap → t.clone.run [.int p] w = .error f w' → ∀ q, refs q w'.heap = refs q w.heap

variable {t : ObjectType} {w w' : World} {p : Int}

/-- A reference is cloned just if the function reports success. -/
theorem cloneReference_cases (t : ObjectType) (p : Int) (w : World) :
    (∃ r status x w', t.clone.run [.int p] w = .ok (r, status) w' ∧ status.code = CallStatus.success ∧
      t.cloneReference p w = .ok x w') ∨
    (∃ f w', t.cloneReference p w = .error f w') ∧
      ∀ r status w', t.clone.run [.int p] w = .ok (r, status) w' → status.code ≠ CallStatus.success := by
  cases hr : t.clone.run [.int p] w with
  | error f w₁ =>
    have hi : t.allocator.invoke t.clone [.int p] none w = .error f w₁ := bind_of_error hr
    exact .inr ⟨⟨f, w₁, bind_of_error (bind_of_error hi)⟩, nofun⟩
  | ok result w₁ =>
    obtain ⟨r, status⟩ := result
    by_cases hc : status.code = CallStatus.success
    · exact .inl ⟨r, status, _, w₁, rfl, hc, bind_of_ok (Allocator.call_of_success hr hc t.allocator none)⟩
    · obtain ⟨f, w₂, hs⟩ := t.allocator.settle_failed hc w₁
      obtain ⟨e, w₃, hn⟩ := onFailure_of_error hs (noteFailedCall t.clone.name)
      have hi : t.allocator.invoke t.clone [.int p] none w = .error e w₃ := (bind_of_ok hr).trans (bind_of_error hn)
      refine .inr ⟨⟨e, w₃, bind_of_error (bind_of_error hi)⟩, fun r' status' w' h => ?_⟩
      cases h
      exact hc

/-- A clone leaves guards and registries alone, and adds a reference if it succeeds. -/
theorem cloneReference_retains (ht : t.Retains good refs) (hw : good w.heap) :
    good ((t.cloneReference p).after w).heap ∧ ((t.cloneReference p).after w).guards = w.guards ∧
      ((t.cloneReference p).after w).registries = w.registries ∧
      ((∃ x, t.cloneReference p w = .ok x ((t.cloneReference p).after w) ∧
          ∀ q, refs q ((t.cloneReference p).after w).heap = refs q w.heap + if p = q then 1 else 0) ∨
        ∃ f, t.cloneReference p w = .error f ((t.cloneReference p).after w) ∧
          ∀ q, refs q ((t.cloneReference p).after w).heap = refs q w.heap) := by
  have hh : ((t.cloneReference p).after w).heap = ((t.clone.run [.int p]).after w).heap :=
    (Apart.heap id).cloneReference_after t p w
  refine ⟨hh ▸ ht.stays p w hw, ?_, ?_, ?_⟩
  · rw [Apart.guards.cloneReference_after, ht.guards]
  · rw [Apart.registries.cloneReference_after, ht.registries]
  obtain ⟨r, status, x, w', hr, hc, hx⟩ | ⟨⟨f, w', hf⟩, hno⟩ := t.cloneReference_cases p w
  · have hq := ht.ok p w r status w' hw hr
    simp only [hc, true_and] at hq
    rw [after_of_ok hx]
    exact .inl ⟨x, hx, hq⟩
  · refine .inr ⟨f, after_of_error hf ▸ hf, fun q => ?_⟩
    rw [hh]
    cases hr : t.clone.run [.int p] w with
    | error e w₁ =>
      rw [after_of_error hr]
      exact ht.error p w e w₁ hw hr q
    | ok result w₁ =>
      rw [after_of_ok hr]
      have hq := ht.ok p w result.1 result.2 w₁ hw hr q
      simpa [hno result.1 result.2 w₁ hr] using hq

/-- A clone behind a guard: it is borrowed and has one more reference, or all is as it was. -/
theorem clonePointer_retains (ht : t.Retains good refs) (hw : good w.heap) (id : Nat) :
    (∃ g p w', w.guards[id]? = some g ∧ t.clonePointer id w = .ok p w' ∧ good w'.heap ∧ 0 ≤ g.borrows.value ∧
      w'.guards = w.guards.set id { g with borrows := ⟨g.borrows.value + 1⟩ } ∧ w'.registries = w.registries ∧
      ∀ q, refs q w'.heap = refs q w.heap + if g.pointer = q then 1 else 0) ∨
    ∃ f w', t.clonePointer id w = .error f w' ∧ good w'.heap ∧ w'.guards = w.guards ∧
      w'.registries = w.registries ∧ ∀ q, refs q w'.heap = refs q w.heap := by
  cases hg : w.guards[id]? with
  | none =>
    have hd : guardOf id w = .ok default w := by rw [guardOf_eq, hg, Option.getD_none]
    exact .inr ⟨_, w, (bind_of_ok hd).trans rfl, hw, rfl, rfl, fun _ => rfl⟩
  | some g =>
    obtain ⟨f, -, hf⟩ | ⟨hb, hc⟩ := t.clonePointer_eq hg
    · exact .inr ⟨f, w, hf, hw, rfl, rfl, fun _ => rfl⟩
    let w₁ : World := { w with guards := w.guards.set id { g with borrows := ⟨g.borrows.value + 1⟩ } }
    have hw₁ : good w₁.heap := hw
    obtain ⟨hgood, hguards, hregistries, hr⟩ := cloneReference_retains (p := g.pointer) ht hw₁
    generalize (t.cloneReference g.pointer).after w₁ = w₂ at hgood hguards hregistries hr
    obtain ⟨x, hx, hq⟩ | ⟨f, hf, hq⟩ := hr
    · refine .inl ⟨g, x, w₂, rfl, ?_, hgood, hb, hguards, hregistries, hq⟩
      rw [hc, World.onFailure, hx]
    · refine .inr ⟨f, { w₂ with guards := w.guards }, ?_, hgood, rfl, hregistries, hq⟩
      rw [hc, World.onFailure, hf]
      dsimp only
      rw [t.releaseBorrow_borrowed hg hb hguards]

end ObjectType

namespace NativeHeap

/-- No outcome that is scripted for a clone reports success. -/
def ScriptsFail (h : NativeHeap) : Prop :=
  ∀ o, some o ∈ h.cloneFaults → signedOf 1 (residueOf 1 o.code) ≠ CallStatus.success

def countOf (pointer : Int) (h : NativeHeap) : Int := counted pointer h.counts

theorem countOf_retain (h : NativeHeap) (p q : Int) : (h.retain p).countOf q = h.countOf q + if p = q then 1 else 0 := by
  unfold countOf retain
  by_cases hpq : p = q
  · rw [if_pos hpq, hpq, counted_add]
  · rw [if_neg hpq, counted_add_other hpq, add_zero]

theorem countOf_release (h : NativeHeap) (p q : Int) :
    (h.release p).countOf q = h.countOf q - if p = q then 1 else 0 := by
  unfold countOf release
  by_cases hpq : p = q
  · rw [if_pos hpq, hpq, counted_add]
    rfl
  · rw [if_neg hpq, counted_add_other hpq, sub_zero]

end NativeHeap

/-- A counting clone adds a reference just if it reports success, as long as no script lies about it. -/
theorem counting_retains (name : String) (a : Allocator) :
    (ObjectType.mk name countingClone countingFree a).Retains NativeHeap.ScriptsFail NativeHeap.countOf where
  guards p w := by
    obtain ⟨arena, h⟩ := countingClone_after w p
    rw [h]
  registries p w := by
    obtain ⟨arena, h⟩ := countingClone_after w p
    rw [h]
  stays p w hw := by
    obtain ⟨arena, h⟩ := countingClone_after w p
    rw [h]
    dsimp only
    split <;> rename_i hs
    · exact hw
    · exact fun o ho => hw o (hs ▸ List.mem_cons_of_mem _ ho)
    · exact fun o ho => hw o (hs ▸ List.mem_cons_of_mem _ ho)
  ok p w r status w' hw h q := by
    obtain ⟨r, status, arena, hr, hc⟩ := countingClone_run w p
    cases hr.symm.trans h
    dsimp only
    cases hs : w.heap.cloneFaults with
    | nil =>
      simp only [hs] at hc
      simp only [hc, true_and]
      exact NativeHeap.countOf_retain _ p q
    | cons o rest =>
      cases o with
      | none =>
        simp only [hs] at hc
        simp only [hc, true_and]
        exact NativeHeap.countOf_retain _ p q
      | some o =>
        simp only [hs] at hc
        rw [if_neg fun hsame => hw o (hs ▸ List.mem_cons_self) (hc ▸ hsame.1), add_zero]
        rfl
  error p w f w' _ h := by
    obtain ⟨r, status, arena, hr, -⟩ := countingClone_run w p
    cases hr.symm.trans h

end ForeignBridge
