import ForeignBridge.Proofs.Object.Calls
import ForeignBridge.Proofs.Object.Guard

/-!
The lifetime of a native reference over whole runs. Each step with a guard moves it, whatever the native
functions come to; a run is a sequence of steps, and the soundness of the guard is carried along it.
-/

namespace ForeignBridge

open Act

namespace ObjectType

variable {t : ObjectType} {pointer : Int} {clones frees : NativeHeap → Int}

theorem guardOf_eq (id : Nat) (w : World) : guardOf id w = .ok (w.guards[id]?.getD default) w := by
  change EStateM.Result.ok (w.guards.getD id default) w = _
  rw [List.getD_eq_getElem?_getD]

theorem guardOf_ok {id : Nat} {w : World} {g : ObjectGuard} (hg : w.guards[id]? = some g) :
    guardOf id w = .ok g w := by
  rw [guardOf_eq, hg, Option.getD_some]

/-- The functions of a type leave guards alone, whatever else they do. -/
structure LeavesGuards (t : ObjectType) (pointer : Int) : Prop where
  clone : (t.clone.run [.int pointer]).Keeps World.guards
  free : (t.free.run [.int pointer]).Keeps World.guards

theorem CountsCalls.leavesGuards (ht : t.CountsCalls pointer clones frees) : t.LeavesGuards pointer :=
  ⟨ht.clone_guards, ht.free_guards⟩

theorem freeReference_guards (ht : t.LeavesGuards pointer) (w : World) :
    ((t.freeReference pointer).after w).guards = w.guards :=
  (Apart.guards.freeReference_after t pointer w).trans (ht.free w)

theorem cloneReference_guards (ht : t.LeavesGuards pointer) (w : World) :
    ((t.cloneReference pointer).after w).guards = w.guards :=
  (Apart.guards.cloneReference_after t pointer w).trans (ht.clone w)

theorem freeReference_spec (ht : t.CountsCalls pointer clones frees) (w : World) :
    ((t.freeReference pointer).after w).guards = w.guards ∧
      frees ((t.freeReference pointer).after w).heap = frees w.heap + 1 ∧
      clones ((t.freeReference pointer).after w).heap = clones w.heap := by
  refine ⟨freeReference_guards ht.leavesGuards w, ?_, ?_⟩
  · rw [(Apart.heap frees).freeReference_after, ht.free_frees]
  · exact ((Apart.heap clones).freeReference_after t pointer w).trans (ht.free_clones w)

theorem cloneReference_spec (ht : t.CountsCalls pointer clones frees) (w : World) :
    ((t.cloneReference pointer).after w).guards = w.guards ∧
      frees ((t.cloneReference pointer).after w).heap = frees w.heap ∧
      clones ((t.cloneReference pointer).after w).heap = clones w.heap + 1 := by
  refine ⟨cloneReference_guards ht.leavesGuards w, ?_, ?_⟩
  · exact ((Apart.heap frees).cloneReference_after t pointer w).trans (ht.clone_frees w)
  · rw [(Apart.heap clones).cloneReference_after, ht.clone_clones]

/-- A borrow that is not the last one is given back without a word to the native side. -/
theorem releaseBorrow_kept (t : ObjectType) {id : Nat} {w : World} {g : ObjectGuard} (hg : w.guards[id]? = some g)
    (hlast : g.giveBack.1 = false) :
    t.releaseBorrow id w = .ok () { w with guards := w.guards.set id g.giveBack.2 } := by
  refine (bind_of_ok (guardOf_ok hg)).trans ?_
  dsimp only
  rw [hlast]
  rfl

/-- The last borrow to be given back frees. -/
theorem releaseBorrow_last (t : ObjectType) {id : Nat} {w : World} {g : ObjectGuard} (hg : w.guards[id]? = some g)
    (hlast : g.giveBack.1 = true) :
    t.releaseBorrow id w = t.freeReference g.pointer
      { w with
        guards := w.guards.set id g.giveBack.2
        log := w.log ++ [⟨.debug, .objects, s!"Freeing {t.name} object {pointerText g.pointer}"⟩] } := by
  refine (bind_of_ok (guardOf_ok hg)).trans ?_
  dsimp only
  rw [hlast]
  rfl

/-- Giving a borrow back moves the guard, whether or not the native side is called and whatever it does. -/
theorem releaseBorrow_guards (ht : t.LeavesGuards pointer) {id : Nat} {w : World} {g : ObjectGuard}
    (hg : w.guards[id]? = some g) (hp : g.pointer = pointer) :
    ((t.releaseBorrow id).after w).guards = w.guards.set id g.giveBack.2 := by
  subst hp
  cases hlast : g.giveBack.1 with
  | false => rw [after_of_ok (t.releaseBorrow_kept hg hlast)]
  | true =>
    unfold after
    rw [t.releaseBorrow_last hg hlast]
    exact freeReference_guards ht _

/-- Giving a borrow back moves the guard, and frees if the guard says so. -/
theorem releaseBorrow_after (ht : t.CountsCalls pointer clones frees) {id : Nat} {w : World} {g : ObjectGuard}
    (hg : w.guards[id]? = some g) (hp : g.pointer = pointer) :
    ((t.releaseBorrow id).after w).guards = w.guards.set id g.giveBack.2 ∧
      frees ((t.releaseBorrow id).after w).heap = frees w.heap + (if g.giveBack.1 then 1 else 0) ∧
      clones ((t.releaseBorrow id).after w).heap = clones w.heap := by
  refine ⟨releaseBorrow_guards ht.leavesGuards hg hp, ?_⟩
  subst hp
  cases hlast : g.giveBack.1 with
  | false =>
    rw [after_of_ok (t.releaseBorrow_kept hg hlast)]
    simp
  | true =>
    unfold after
    rw [t.releaseBorrow_last hg hlast]
    exact (t.freeReference_spec ht _).2

theorem clonePointer_refused (t : ObjectType) {id : Nat} {w : World} {g : ObjectGuard} {f : Failure}
    (hg : w.guards[id]? = some g) (htake : g.take t.name = .error f) : t.clonePointer id w = .error f w := by
  refine (bind_of_ok (guardOf_ok hg)).trans ?_
  rw [htake]
  rfl

theorem clonePointer_taken (t : ObjectType) {id : Nat} {w : World} {g taken : ObjectGuard}
    (hg : w.guards[id]? = some g) (htake : g.take t.name = .ok taken) :
    t.clonePointer id w = World.onFailure (t.cloneReference g.pointer) (fun _ => t.releaseBorrow id)
      { w with guards := w.guards.set id taken } := by
  refine (bind_of_ok (guardOf_ok hg)).trans ?_
  rw [htake]
  rfl

/-- A clone takes a borrow first, and gives it back if the native side does not clone. -/
theorem clonePointer_eq (t : ObjectType) {id : Nat} {w : World} {g : ObjectGuard} (hg : w.guards[id]? = some g) :
    (∃ f, g.take t.name = .error f ∧ t.clonePointer id w = .error f w) ∨
    0 ≤ g.borrows.value ∧
      t.clonePointer id w = World.onFailure (t.cloneReference g.pointer) (fun _ => t.releaseBorrow id)
        { w with guards := w.guards.set id { g with borrows := ⟨g.borrows.value + 1⟩ } } := by
  cases htake : g.take t.name with
  | error f => exact .inl ⟨f, rfl, t.clonePointer_refused hg htake⟩
  | ok taken =>
    obtain ⟨hb, rfl⟩ := ObjectGuard.take_eq_ok htake
    exact .inr ⟨hb, t.clonePointer_taken hg htake⟩

/-- A borrow that was just taken is given back without a word to the native side. -/
theorem releaseBorrow_borrowed (t : ObjectType) {id : Nat} {w w' : World} {g : ObjectGuard} (hg : w.guards[id]? = some g)
    (hb : 0 ≤ g.borrows.value)
    (hw : w'.guards = w.guards.set id { g with borrows := ⟨g.borrows.value + 1⟩ }) :
    t.releaseBorrow id w' = .ok () { w' with guards := w.guards } := by
  obtain ⟨hi, hgi⟩ := List.getElem?_eq_some_iff.mp hg
  have hg' : w'.guards[id]? = some { g with borrows := ⟨g.borrows.value + 1⟩ } := by
    rw [hw, List.getElem?_set_self hi]
  have hgive := ObjectGuard.giveBack_borrowed hb
  have hback : w'.guards.set id g = w.guards := by
    rw [hw, List.set_set, ← hgi, List.set_getElem_self]
  rw [t.releaseBorrow_kept hg' (congrArg Prod.fst hgive), hgive, hback]

/-- A clone moves the guard up by one if it succeeds, and leaves the guards as they were if it fails. -/
theorem clonePointer_guards (ht : t.LeavesGuards pointer) {id : Nat} {w : World} {g : ObjectGuard}
    (hg : w.guards[id]? = some g) (hp : g.pointer = pointer) :
    (∃ f w', t.clonePointer id w = .error f w' ∧ w'.guards = w.guards) ∨
    (∃ p w', t.clonePointer id w = .ok p w' ∧ 0 ≤ g.borrows.value ∧
      w'.guards = w.guards.set id { g with borrows := ⟨g.borrows.value + 1⟩ }) := by
  subst hp
  obtain ⟨f, -, hc⟩ | ⟨hb, hc⟩ := t.clonePointer_eq hg
  · exact .inl ⟨f, w, hc, rfl⟩
  let w₁ : World := { w with guards := w.guards.set id { g with borrows := ⟨g.borrows.value + 1⟩ } }
  have hguards := cloneReference_guards ht w₁
  rw [hc, World.onFailure]
  cases hr : t.cloneReference g.pointer w₁ with
  | ok p w' =>
    rw [after_of_ok hr] at hguards
    exact .inr ⟨p, w', rfl, hb, hguards⟩
  | error f w' =>
    rw [after_of_error hr] at hguards
    refine .inl ⟨f, { w' with guards := w.guards }, ?_, rfl⟩
    dsimp only
    rw [t.releaseBorrow_borrowed hg hb hguards]

/-- What a clone of the reference comes to: no borrow is to be had, and nothing happens; or the native side is
called once, and the guard has moved just if that succeeded. -/
theorem clonePointer_cases (ht : t.CountsCalls pointer clones frees) {id : Nat} {w : World} {g : ObjectGuard}
    (hg : w.guards[id]? = some g) (hp : g.pointer = pointer) :
    (∃ f, g.take t.name = .error f ∧ t.clonePointer id w = .error f w) ∨
    (∃ p w', t.clonePointer id w = .ok p w' ∧ 0 ≤ g.borrows.value ∧
      w'.guards = w.guards.set id { g with borrows := ⟨g.borrows.value + 1⟩ } ∧
      frees w'.heap = frees w.heap ∧ clones w'.heap = clones w.heap + 1) ∨
    (∃ f w', t.clonePointer id w = .error f w' ∧ 0 ≤ g.borrows.value ∧ w'.guards = w.guards ∧
      frees w'.heap = frees w.heap ∧ clones w'.heap = clones w.heap + 1) := by
  subst hp
  obtain hf | ⟨hb, hc⟩ := t.clonePointer_eq hg
  · exact .inl hf
  let w₁ : World := { w with guards := w.guards.set id { g with borrows := ⟨g.borrows.value + 1⟩ } }
  obtain ⟨hguards, hfrees, hclones⟩ := t.cloneReference_spec ht w₁
  rw [hc, World.onFailure]
  cases hr : t.cloneReference g.pointer w₁ with
  | ok p w' =>
    rw [after_of_ok hr] at hguards hfrees hclones
    exact .inr (.inl ⟨p, w', rfl, hb, hguards, hfrees, hclones⟩)
  | error f w' =>
    rw [after_of_error hr] at hguards hfrees hclones
    refine .inr (.inr ⟨f, { w' with guards := w.guards }, ?_, hb, rfl, hfrees, hclones⟩)
    dsimp only
    rw [t.releaseBorrow_borrowed hg hb hguards]

theorem destroy_again (t : ObjectType) {id : Nat} {w : World} {g : ObjectGuard} (hg : w.guards[id]? = some g)
    (hd : g.destroyed.isSet = true) : t.destroy id w = .ok false w := by
  refine (bind_of_ok (guardOf_ok hg)).trans ?_
  simp [ObjectGuard.markDestroyed, AtomicFlag.testAndSet, hd]
  rfl

theorem destroy_first (t : ObjectType) {id : Nat} {w : World} {g : ObjectGuard} (hg : w.guards[id]? = some g)
    (hd : g.destroyed.isSet = false) :
    t.destroy id w = (do t.releaseBorrow id; return true : Act Bool)
      { w with guards := w.guards.set id { g with destroyed := ⟨true⟩ } } := by
  refine (bind_of_ok (guardOf_ok hg)).trans ?_
  simp [ObjectGuard.markDestroyed, AtomicFlag.testAndSet, hd]
  rfl

theorem destroy_first_after (t : ObjectType) {id : Nat} {w : World} {g : ObjectGuard} (hg : w.guards[id]? = some g)
    (hd : g.destroyed.isSet = false) :
    (t.destroy id).after w =
      (t.releaseBorrow id).after { w with guards := w.guards.set id { g with destroyed := ⟨true⟩ } } := by
  rw [after, t.destroy_first hg hd]
  exact after_bind_idle (fun _ => .pure true) _

/-- The first destroying marks the guard and moves it down by one. -/
theorem destroy_guards (ht : t.LeavesGuards pointer) {id : Nat} {w : World} {g : ObjectGuard}
    (hg : w.guards[id]? = some g) (hp : g.pointer = pointer) (hd : g.destroyed.isSet = false) :
    ((t.destroy id).after w).guards = w.guards.set id { g with destroyed := ⟨true⟩ }.giveBack.2 := by
  let w₁ : World := { w with guards := w.guards.set id { g with destroyed := ⟨true⟩ } }
  have hi : id < w.guards.length := (List.getElem?_eq_some_iff.mp hg).1
  have hg' : w₁.guards[id]? = some { g with destroyed := ⟨true⟩ } := List.getElem?_set_self hi
  have hguards : ((t.releaseBorrow id).after w₁).guards = _ := releaseBorrow_guards ht hg' hp
  rw [t.destroy_first_after hg hd, hguards, List.set_set]

/-- Destroying marks the guard and gives one borrow back, unless it was marked before. -/
theorem destroy_cases (ht : t.CountsCalls pointer clones frees) {id : Nat} {w : World} {g : ObjectGuard}
    (hg : w.guards[id]? = some g) (hp : g.pointer = pointer) :
    (g.destroyed.isSet = true ∧ t.destroy id w = .ok false w) ∨
    (g.destroyed.isSet = false ∧
      ((t.destroy id).after w).guards = w.guards.set id { g with destroyed := ⟨true⟩ }.giveBack.2 ∧
      frees ((t.destroy id).after w).heap =
        frees w.heap + (if { g with destroyed := ⟨true⟩ }.giveBack.1 then 1 else 0)) := by
  cases hd : g.destroyed.isSet with
  | true => exact .inl ⟨rfl, t.destroy_again hg hd⟩
  | false =>
    let w₁ : World := { w with guards := w.guards.set id { g with destroyed := ⟨true⟩ } }
    have hi : id < w.guards.length := (List.getElem?_eq_some_iff.mp hg).1
    have hg' : w₁.guards[id]? = some { g with destroyed := ⟨true⟩ } := List.getElem?_set_self hi
    refine .inr ⟨rfl, destroy_guards ht.leavesGuards hg hp hd, ?_⟩
    rw [t.destroy_first_after hg hd]
    exact (t.releaseBorrow_after ht hg' hp).2.1

end ObjectType

/-- What may be done with the guard of a reference. -/
inductive LifeStep
  | clone
  /-- gives a borrow back; it is done only if there is one -/
  | giveBack
  | destroy

/-- A run so far: the world, and the borrows that were taken and not given back. -/
structure LifeRun where
  world : World
  outstanding : Nat

namespace LifeRun

/-- One step with the guard of a number. A failure leaves the world as it was when it came up. -/
def step (t : ObjectType) (id : Nat) (m : LifeRun) : LifeStep → LifeRun
  | .clone =>
    match t.clonePointer id m.world with
    | .ok _ w => ⟨w, m.outstanding + 1⟩
    | .error _ w => ⟨w, m.outstanding⟩
  | .giveBack =>
    match m.outstanding with
    | 0 => m
    | n + 1 => ⟨(t.releaseBorrow id).after m.world, n⟩
  | .destroy => ⟨(t.destroy id).after m.world, m.outstanding⟩

def run (t : ObjectType) (id : Nat) (m : LifeRun) (steps : List LifeStep) : LifeRun := steps.foldl (step t id) m

variable {t : ObjectType} {pointer : Int} {clones frees : NativeHeap → Int} {id : Nat} {m : LifeRun} {g : ObjectGuard}

/-- Every step moves the guard, and the native side frees once if the move does. -/
theorem step_moves (ht : t.CountsCalls pointer clones frees) (hg : m.world.guards[id]? = some g)
    (hp : g.pointer = pointer) (s : LifeStep) :
    ∃ g' freed, (m.step t id s).world.guards[id]? = some g' ∧
      g.Moves m.outstanding g' (m.step t id s).outstanding freed ∧
      frees (m.step t id s).world.heap = frees m.world.heap + (if freed then 1 else 0) := by
  have hi : id < m.world.guards.length := (List.getElem?_eq_some_iff.mp hg).1
  cases s with
  | clone =>
    obtain ⟨f, -, hr⟩ | ⟨p, w', hr, hb, hw, hf, -⟩ | ⟨f, w', hr, -, hw, hf, -⟩ := t.clonePointer_cases ht hg hp
    · refine ⟨g, false, ?_, ?_, ?_⟩ <;> simp only [step, hr]
      · exact hg
      · exact .stays g _
      · simp
    · refine ⟨{ g with borrows := ⟨g.borrows.value + 1⟩ }, false, ?_, ?_, ?_⟩ <;> simp only [step, hr]
      · rw [hw, List.getElem?_set_self hi]
      · exact .borrows _ hb
      · simp [hf]
    · refine ⟨g, false, ?_, ?_, ?_⟩ <;> simp only [step, hr]
      · rw [hw, hg]
      · exact .stays g _
      · simp [hf]
  | giveBack =>
    obtain ⟨hw, hf, -⟩ := t.releaseBorrow_after ht hg hp
    obtain ⟨w, n⟩ := m
    cases n with
    | zero => exact ⟨g, false, hg, .stays g _, by simp [step]⟩
    | succ n =>
      refine ⟨g.giveBack.2, g.giveBack.1, ?_, .returns g n, hf⟩
      simp only [step]
      rw [hw, List.getElem?_set_self hi]
  | destroy =>
    obtain ⟨-, hr⟩ | ⟨hd, hw, hf⟩ := t.destroy_cases ht hg hp
    · refine ⟨g, false, ?_, ?_, ?_⟩ <;> simp only [step, after_of_ok hr]
      · exact hg
      · exact .stays g _
      · simp
    · refine ⟨_, _, ?_, .destroys _ hd, hf⟩
      simp only [step]
      rw [hw, List.getElem?_set_self hi]

/-- Soundness along a run, counted from where the reference had not been freed yet. -/
structure Sound (frees : NativeHeap → Int) (id : Nat) (before pointer : Int) (m : LifeRun) (g : ObjectGuard) : Prop where
  guard : m.world.guards[id]? = some g
  same : g.pointer = pointer
  sound : g.Sound m.outstanding (frees m.world.heap - before)

theorem Sound.step (ht : t.CountsCalls pointer clones frees) {before : Int} (h : Sound frees id before pointer m g)
    (s : LifeStep) : ∃ g', Sound frees id before pointer (m.step t id s) g' := by
  obtain ⟨g', freed, hg', hm, hf⟩ := step_moves ht h.guard h.same s
  refine ⟨g', hg', hm.pointer.trans h.same, ?_⟩
  have hs := h.sound.moves hm
  rw [hf, add_sub_right_comm]
  exact hs

theorem Sound.run (ht : t.CountsCalls pointer clones frees) {before : Int} (h : Sound frees id before pointer m g)
    (steps : List LifeStep) : ∃ g', Sound frees id before pointer (m.run t id steps) g' := by
  induction steps generalizing m g with
  | nil => exact ⟨g, h⟩
  | cons s rest ih =>
    obtain ⟨g', h'⟩ := h.step ht s
    exact ih h'

/-- Every step moves the guard, whatever the native functions do besides. -/
theorem step_moves_guard (ht : t.LeavesGuards pointer) (hg : m.world.guards[id]? = some g) (hp : g.pointer = pointer)
    (s : LifeStep) :
    ∃ g' freed, (m.step t id s).world.guards[id]? = some g' ∧ g.Moves m.outstanding g' (m.step t id s).outstanding freed := by
  have hi : id < m.world.guards.length := (List.getElem?_eq_some_iff.mp hg).1
  cases s with
  | clone =>
    obtain ⟨f, w', hr, hw⟩ | ⟨p, w', hr, hb, hw⟩ := t.clonePointer_guards ht hg hp
    · simp only [step, hr]
      exact ⟨g, false, by rw [hw, hg], .stays g _⟩
    · simp only [step, hr]
      exact ⟨_, false, by rw [hw, List.getElem?_set_self hi], .borrows _ hb⟩
  | giveBack =>
    obtain ⟨w, n⟩ := m
    cases n with
    | zero => exact ⟨g, false, hg, .stays g _⟩
    | succ n =>
      refine ⟨g.giveBack.2, g.giveBack.1, ?_, .returns g n⟩
      simp only [step]
      rw [t.releaseBorrow_guards ht hg hp, List.getElem?_set_self hi]
  | destroy =>
    cases hd : g.destroyed.isSet with
    | true =>
      simp only [step, after_of_ok (t.destroy_again hg hd)]
      exact ⟨g, false, hg, .stays g _⟩
    | false =>
      refine ⟨_, _, ?_, .destroys _ hd⟩
      simp only [step]
      rw [t.destroy_guards ht hg hp hd, List.getElem?_set_self hi]

/-- A step that takes a borrow finds room for it. -/
theorem step_room (hg : m.world.guards[id]? = some g) {s : LifeStep}
    (h : m.outstanding < (m.step t id s).outstanding) : g.borrows.value < g.maxBorrows := by
  cases s with
  | clone =>
    cases htake : g.take t.name with
    | ok taken => exact ObjectGuard.take_room htake
    | error f =>
      simp only [step, t.clonePointer_refused hg htake] at h
      exact absurd h (Nat.lt_irrefl _)
  | giveBack =>
    obtain ⟨w, n⟩ := m
    cases n <;> simp [step] at h
  | destroy => exact absurd h (Nat.lt_irrefl _)

/-- A run whose guard counts right, and not beyond what it allows. -/
structure Bounded (id : Nat) (pointer maxBorrows : Int) (m : LifeRun) (g : ObjectGuard) : Prop where
  guard : m.world.guards[id]? = some g
  same : g.pointer = pointer
  sound : ∃ frees, g.Sound m.outstanding frees
  allowed : g.maxBorrows = maxBorrows
  bounded : g.borrows.value ≤ maxBorrows

theorem Bounded.step (ht : t.LeavesGuards pointer) {maxBorrows : Int} (h : Bounded id pointer maxBorrows m g)
    (s : LifeStep) : ∃ g', Bounded id pointer maxBorrows (m.step t id s) g' := by
  obtain ⟨g', freed, hg', hm⟩ := step_moves_guard ht h.guard h.same s
  obtain ⟨frees, hsound⟩ := h.sound
  have hb : g.borrows.value ≤ g.maxBorrows := h.allowed ▸ h.bounded
  refine ⟨g', hg', hm.pointer.trans h.same, ⟨_, hsound.moves hm⟩, hm.maxBorrows.trans h.allowed, ?_⟩
  rw [← h.allowed]
  exact hm.bounded hb (step_room h.guard)

theorem Bounded.run (ht : t.LeavesGuards pointer) {maxBorrows : Int} (h : Bounded id pointer maxBorrows m g)
    (steps : List LifeStep) : ∃ g', Bounded id pointer maxBorrows (m.run t id steps) g' := by
  induction steps generalizing m g with
  | nil => exact ⟨g, h⟩
  | cons s rest ih =>
    obtain ⟨g', h'⟩ := h.step ht s
    exact ih h'

/-- What a guard tells of its borrows after any run, and how many there can be. Once it is destroyed, and as long as
a borrow is out, it tells one less than there are, and it allows one more than its most: destroying lowers the one
count that both are read from. -/
theorem reported_borrows (ht : t.LeavesGuards pointer) {w : World} {maxBorrows : Int} (hmax : 1 ≤ maxBorrows)
    (hw : w.guards[id]? = some (.new pointer maxBorrows)) (steps : List LifeStep) :
    let m := (LifeRun.mk w 0).run t id steps
    ∃ g, m.world.guards[id]? = some g ∧
      g.activeBorrows = m.outstanding - (if g.destroyed.isSet ∧ 0 < m.outstanding then 1 else 0) ∧
      g.activeBorrows ≤ maxBorrows ∧
      m.outstanding ≤ maxBorrows + (if g.destroyed.isSet then 1 else 0) ∧
      (m.outstanding = maxBorrows + (if g.destroyed.isSet then 1 else 0) →
        t.clonePointer id m.world = .error (.borrowSaturated t.name pointer g.activeBorrows) m.world) := by
  intro m
  have h₀ : Bounded id pointer maxBorrows ⟨w, 0⟩ (.new pointer maxBorrows) :=
    ⟨hw, rfl, ⟨0, .new pointer maxBorrows⟩, rfl, (by omega : (0 : Int) ≤ maxBorrows)⟩
  obtain ⟨g, h⟩ : ∃ g, Bounded id pointer maxBorrows m g := h₀.run ht steps
  obtain ⟨frees, hsound⟩ := h.sound
  have hcount := hsound.count
  have hbounded := h.bounded
  have hactive : g.activeBorrows = max g.borrows.value 0 := rfl
  refine ⟨g, h.guard, hsound.activeBorrows_eq, by omega, by omega, fun hfull => ?_⟩
  have hvalue : g.borrows.value = maxBorrows := by omega
  have hsaturated : g.take t.name = .error (.borrowSaturated t.name g.pointer g.borrows.value) := by
    apply ObjectGuard.take_saturated
    · omega
    · rw [h.allowed, hvalue]
  rw [t.clonePointer_refused h.guard hsaturated, h.same, hactive, max_eq_left (by omega)]

/-- A reference with one borrow out, destroyed, and borrowed once more; the most borrows allowed is one. -/
theorem reported_borrows_counting :
    let t : ObjectType := ⟨"Wallet", countingClone, countingFree, .direct⟩
    let w : World := { World.new [] with heap := ⟨[(7, 1)], [], [], []⟩, guards := [.new 7 1] }
    let m := (LifeRun.mk w 0).run t 0 [.clone, .destroy, .clone]
    t.LeavesGuards 7 ∧ (1 : Int) ≤ 1 ∧ w.guards[0]? = some (.new 7 1) ∧
      ∃ g : ObjectGuard, m.world.guards[0]? = some g ∧
        g.activeBorrows = m.outstanding - (if g.destroyed.isSet ∧ 0 < m.outstanding then 1 else 0) := by
  intro t w m
  have ht : t.LeavesGuards 7 := (counting_countsCalls "Wallet" .direct 7).leavesGuards
  have hw : w.guards[0]? = some (.new 7 1) := rfl
  obtain ⟨g, hg, hactive, -⟩ := reported_borrows ht (le_refl 1) hw [.clone, .destroy, .clone]
  exact ⟨ht, le_refl 1, hw, g, hg, hactive⟩

/-- Of a guard that allows one borrow: with one out, destroying makes it tell of none, and a second one is given. -/
theorem borrow_hidden_by_destroy :
    let t : ObjectType := ⟨"Wallet", countingClone, countingFree, .direct⟩
    let w : World := { World.new [] with heap := ⟨[(7, 1)], [], [], []⟩, guards := [.new 7 1] }
    let pending := (LifeRun.mk w 0).run t 0 [.clone, .destroy]
    let again := (LifeRun.mk w 0).run t 0 [.clone, .destroy, .clone]
    (pending.outstanding = 1 ∧ pending.world.guards.map (·.activeBorrows) = [0])
      ∧ again.outstanding = 2 ∧ again.world.guards.map (·.maxBorrows) = [1] := by
  decide +kernel

end LifeRun

end ForeignBridge
