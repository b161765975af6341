import ForeignBridge.Object.Guard
import Mathlib.Tactic

/-!
How the guard of a reference can move, and what holds of it along the way: the count is the number of
outstanding borrows, less one once the guard is destroyed, and the move that takes it below zero is the
one that frees.
-/

namespace ForeignBridge.ObjectGuard

variable {g g' : ObjectGuard} {n n' : Nat} {freed : Bool}

/-- The moves of a guard with so many outstanding borrows, and whether a move frees the reference. -/
inductive Moves : ObjectGuard → Nat → ObjectGuard → Nat → Bool → Prop
  | stays (g : ObjectGuard) (n : Nat) : Moves g n g n false
  | borrows {g : ObjectGuard} (n : Nat) (h : 0 ≤ g.borrows.value) :
      Moves g n { g with borrows := ⟨g.borrows.value + 1⟩ } (n + 1) false
  | returns (g : ObjectGuard) (n : Nat) : Moves g (n + 1) g.giveBack.2 n g.giveBack.1
  | destroys {g : ObjectGuard} (n : Nat) (h : g.destroyed.isSet = false) :
      Moves g n { g with destroyed := ⟨true⟩ }.giveBack.2 n { g with destroyed := ⟨true⟩ }.giveBack.1

@[simp] theorem giveBack_borrows (g : ObjectGuard) : g.giveBack.2.borrows.value = g.borrows.value - 1 := by
  simp [giveBack, AtomicNumber.fetchSub, AtomicNumber.compareAndSwap]

@[simp] theorem giveBack_destroyed (g : ObjectGuard) : g.giveBack.2.destroyed = g.destroyed := rfl

@[simp] theorem giveBack_pointer (g : ObjectGuard) : g.giveBack.2.pointer = g.pointer := rfl

@[simp] theorem giveBack_fst (g : ObjectGuard) : g.giveBack.1 = true ↔ g.borrows.value = 0 := by
  simp [giveBack, AtomicNumber.fetchSub]

theorem Moves.pointer (h : Moves g n g' n' freed) : g'.pointer = g.pointer := by
  cases h <;> rfl

theorem Moves.maxBorrows (h : Moves g n g' n' freed) : g'.maxBorrows = g.maxBorrows := by
  cases h <;> rfl

/-- The count stays below the most that a guard allows if only a borrow that has room moves it up. -/
theorem Moves.bounded (h : Moves g n g' n' freed) (hb : g.borrows.value ≤ g.maxBorrows)
    (hroom : n < n' → g.borrows.value < g.maxBorrows) : g'.borrows.value ≤ g.maxBorrows := by
  cases h with
  | stays => exact hb
  | borrows => exact hroom (Nat.lt_succ_self n)
  | returns =>
    rw [giveBack_borrows]
    omega
  | destroys =>
    rw [giveBack_borrows]
    dsimp only
    omega

theorem take_eq_ok {typeName : String} (h : g.take typeName = .ok g') :
    0 ≤ g.borrows.value ∧ g' = { g with borrows := ⟨g.borrows.value + 1⟩ } := by
  unfold take at h
  dsimp only at h
  split at h
  · cases h
  · split at h
    · cases h
    · cases h
      refine ⟨by omega, ?_⟩
      simp [AtomicNumber.compareAndSwap]

theorem take_room {typeName : String} (h : g.take typeName = .ok g') : g.borrows.value < g.maxBorrows := by
  unfold take at h
  dsimp only at h
  split_ifs at h with hreleased hfull
  omega

theorem take_saturated {typeName : String} (h : 0 ≤ g.borrows.value) (hfull : g.maxBorrows ≤ g.borrows.value) :
    g.take typeName = .error (.borrowSaturated typeName g.pointer g.borrows.value) := by
  have hreleased : ¬ g.borrows.value < 0 := by omega
  simp only [take, hreleased, hfull, if_true, if_false]

/-- A borrow given back at once leaves the guard as it was, and never frees. -/
theorem giveBack_borrowed (h : 0 ≤ g.borrows.value) :
    { g with borrows := ⟨g.borrows.value + 1⟩ }.giveBack = (false, g) := by
  have hn : ¬ g.borrows.value + 1 = 0 := by omega
  simp [giveBack, AtomicNumber.fetchSub, AtomicNumber.compareAndSwap, hn]

/-- The count of a guard, and how often its reference was freed. -/
structure Sound (g : ObjectGuard) (n : Nat) (frees : Int) : Prop where
  count : g.borrows.value = n - (if g.destroyed.isSet then 1 else 0)
  freed : frees = if g.destroyed.isSet ∧ n = 0 then 1 else 0

namespace Sound

theorem new (pointer maxBorrows : Int) : Sound (.new pointer maxBorrows) 0 0 := ⟨rfl, rfl⟩

theorem released_iff {k : Int} (h : g.Sound n k) : g.borrows.value = -1 ↔ g.destroyed.isSet ∧ n = 0 := by
  have hc := h.count
  by_cases hd : g.destroyed.isSet = true
  · rw [if_pos hd] at hc
    simp only [hd, true_and]
    omega
  · rw [if_neg hd] at hc
    simp only [hd, Bool.false_eq_true, false_and, iff_false]
    omega

/-- What a guard tells of its borrows: all of them, or all but one while it is destroyed and not yet freed. -/
theorem activeBorrows_eq {k : Int} (h : g.Sound n k) :
    g.activeBorrows = n - (if g.destroyed.isSet ∧ 0 < n then 1 else 0) := by
  rw [activeBorrows, h.count]
  by_cases hd : g.destroyed.isSet = true
  · simp only [hd, if_true, true_and]
    split_ifs <;> omega
  · simp only [hd, Bool.false_eq_true, if_false, false_and]
    omega

/-- Every move keeps the count right, and frees if it must. -/
theorem moves {k : Int} (h : g.Sound n k) (hm : Moves g n g' n' freed) :
    g'.Sound n' (k + if freed then 1 else 0) := by
  obtain ⟨hc, hk⟩ := h
  cases hm with
  | stays => exact ⟨hc, by simpa using hk⟩
  | borrows _ hb =>
    have hr : ¬ (g.destroyed.isSet = true ∧ n = 0) := by
      intro hr
      have := (released_iff ⟨hc, hk⟩).mpr hr
      omega
    refine ⟨?_, ?_⟩
    · simp only [hc]
      push_cast
      ring
    · simp [hk, hr]
  | returns =>
    refine ⟨?_, ?_⟩
    · rw [giveBack_borrows, giveBack_destroyed, hc]
      push_cast
      ring
    · simp only [giveBack_fst, giveBack_destroyed, hk, hc]
      by_cases hd : g.destroyed.isSet = true
      · simp [hd]
      · simp [hd]
        omega
  | destroys _ hd =>
    refine ⟨?_, ?_⟩
    · simp [hc, hd]
    · simp [giveBack_fst, hk, hc, hd]

end Sound

end ForeignBridge.ObjectGuard
