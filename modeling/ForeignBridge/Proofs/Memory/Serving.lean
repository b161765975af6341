import ForeignBridge.Proofs.Memory.Lifting

/-!
An allocator that serves: no copy and no free is refused any more. What it copies can be read back, and
what it has copied can be freed once.
-/

namespace ForeignBridge

open Act

/-- No copy or free that is still to come is refused; so many buffers are live. -/
structure World.Serves (w : World) (live : Nat) : Prop where
  copies : ∀ n ∈ w.arena.refusals, n ≤ w.arena.copies
  copy : ∀ o ∈ w.faults.copy, o = none
  free : ∀ o ∈ w.faults.free, o = none
  outstanding : w.arena.outstanding = live

/-- A live buffer that shows these bytes. -/
structure World.Holds (w : World) (b : Buffer) (data : Bytes) : Prop where
  len : b.len = data.length
  live : ∃ n ∈ w.arena.live, b.data = some n
  view : w.arena.view b = data

namespace World

variable {w w' : World} {b : Buffer} {data : Bytes} {live : Nat}

theorem Serves.of_eq (h : w.Serves live) (ha : w'.arena = w.arena) (hf : w'.faults = w.faults) :
    w'.Serves live := by
  constructor
  · rw [ha]
    exact h.copies
  · rw [hf]
    exact h.copy
  · rw [hf]
    exact h.free
  · rw [ha]
    exact h.outstanding

theorem Holds.of_eq (h : w.Holds b data) (ha : w'.arena = w.arena) : w'.Holds b data := by
  constructor
  · exact h.len
  · rw [ha]
    exact h.live
  · rw [ha]
    exact h.view

theorem inArena_copy (h : w.Serves live) (data : Bytes) :
    ∃ b w', World.inArena (·.copy data) w = .ok b w' ∧ w'.Serves (live + 1) ∧ w'.Holds b data := by
  have hr : w.arena.copies + 1 ∉ w.arena.refusals := by
    intro hm
    have := h.copies _ hm
    omega
  unfold World.inArena
  simp only [Arena.copy, List.contains_eq_mem, hr, decide_false, Bool.false_eq_true, if_false]
  refine ⟨_, _, rfl, ⟨fun n hn => (h.copies n hn).trans (Nat.le_succ _), h.copy, h.free, ?_⟩, ?_⟩
  · rw [← h.outstanding]
    simp [Arena.place, Arena.outstanding]
  · exact ⟨rfl, ⟨w.arena.contents.length + 1, by simp [Arena.place], rfl⟩,
      by simp [Arena.place, Arena.view, Arena.bytesOf]⟩

theorem Holds.freeable (hb : w.Holds b data) : w.arena.Freeable b := by
  obtain ⟨n, hn, hd⟩ := hb.live
  intro m hm
  rw [hd] at hm
  cases hm
  exact hn

theorem Serves.released (h : w.Serves (live + 1)) (hb : w.Holds b data) (hr : w.Released b w') : w'.Serves live := by
  have hfrees : w'.Frees := hr.frees h.free
  obtain ⟨n, hn, hd⟩ := hb.live
  have houtstanding : w'.arena.outstanding = live := by
    rw [hr.arena, Arena.outstanding_freeing hn hd, h.outstanding]
    rfl
  obtain ⟨script, log, -, rfl⟩ := hr
  exact ⟨h.copies, h.copy, hfrees, houtstanding⟩

end World

namespace Allocator

variable {w : World} {b : Buffer} {data : Bytes} {live : Nat}

theorem some_copy_serves (h : w.Serves live) (data : Bytes) :
    ∃ b w', (some <$> World.inArena (·.copy data)) w = .ok (some b) w' ∧ w'.Serves (live + 1) ∧
      w'.Holds b data := by
  obtain ⟨b, w', hw, hs, hb⟩ := World.inArena_copy h data
  refine ⟨b, w', ?_, hs, hb⟩
  change EStateM.map some _ w = _
  rw [EStateM.map, hw]

theorem makeThrough_serves (a : Allocator) (name : String) (h : w.Serves live) (data : Bytes) :
    ∃ b w', a.makeThrough name w.faults.copy (fun r f => { f with copy := r }) (·.copy data) w = .ok (some b) w' ∧
      w'.Serves (live + 1) ∧ w'.Holds b data := by
  unfold makeThrough
  cases hs : w.faults.copy with
  | nil => exact some_copy_serves h data
  | cons o rest =>
    have ho : o = none := h.copy o (by simp [hs])
    subst ho
    let w₁ : World := { w with faults := { w.faults with copy := rest } }
    have h₁ : w₁.Serves live :=
      ⟨h.copies, fun o hm => h.copy o (hs ▸ List.mem_cons_of_mem none hm), h.free, h.outstanding⟩
    obtain ⟨b, w', hw, hb⟩ := some_copy_serves h₁ data
    exact ⟨b, w', (bind_of_ok (v := w₁) rfl).trans hw, hb⟩

theorem copy_serves (a : Allocator) (h : w.Serves live) (data : Bytes) :
    ∃ b w', a.copy data w = .ok (some b) w' ∧ w'.Serves (live + 1) ∧ w'.Holds b data := by
  unfold copy
  cases a with
  | direct => exact some_copy_serves h data
  | library space =>
    obtain ⟨b, w', hw, hb⟩ := makeThrough_serves (library space) (copySymbol space) h data
    exact ⟨b, w', (bind_of_ok (v := w) rfl).trans hw, hb⟩

theorem release_serves (a : Allocator) (h : w.Serves (live + 1)) (hb : w.Holds b data) :
    ∃ w', a.release b w = .ok () w' ∧ w'.Serves live := by
  obtain ⟨w', hr, hreleased⟩ := a.release_released h.free hb.freeable
  exact ⟨w', hr, h.released hb hreleased⟩

theorem lift_serves (a : Allocator) {s : Shape} (hp : s.isPlain) (h : w.Serves (live + 1))
    (hb : w.Holds b data) : ∃ w', w'.Serves live ∧ a.lift s b w = match s.decode data with
      | .ok v => .ok v w'
      | .error f => .error f w' := by
  obtain ⟨w', hr, hs⟩ := a.release_serves h hb
  have hl := Shape.liftWith_of_released hp hr
  rw [hb.view] at hl
  refine ⟨w', hs, hl.trans ?_⟩
  cases s.decode data <;> rfl

theorem liftMessage_serves (a : Allocator) (h : w.Serves (live + 1)) (hb : w.Holds b data) :
    ∃ w', a.liftMessage b w = .ok (Utf8.decodeReplacing data) w' ∧ w'.Serves live := by
  obtain ⟨w', hr, hs⟩ := a.release_serves h hb
  have hl := liftMessageWith_of_released hr
  rw [hb.view] at hl
  exact ⟨w', hl, hs⟩

end Allocator

end ForeignBridge
