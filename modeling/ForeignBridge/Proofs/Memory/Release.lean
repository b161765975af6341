import ForeignBridge.Memory.Allocator
import ForeignBridge.Proofs.Frame

/-!
Releases. While no free is made to fail, releasing a buffer frees it once and touches no other buffer, whether the
arena frees or the functions of a library do.
-/

namespace ForeignBridge

open Act

namespace Arena

/-- A buffer that can be freed: one that is live, or that lies nowhere. -/
def Freeable (a : Arena) (b : Buffer) : Prop := ∀ n ∈ b.data, n ∈ a.live

/-- The arena with a buffer freed, and all else as it was. -/
def freeing (a : Arena) (b : Buffer) : Arena :=
  { a with live := b.data.elim a.live a.live.erase, freed := a.freed ++ [b.data.getD 0] }

variable {a : Arena} {b : Buffer}

theorem free_of_freeable (h : a.Freeable b) : a.free b = (.ok (), a.freeing b) := by
  unfold free freeing
  cases hd : b.data with
  | none => rfl
  | some n =>
    have hn : n ∈ a.live := h n (Option.mem_def.mpr hd)
    dsimp only
    rw [List.contains_eq_mem, decide_eq_true hn, if_pos rfl]
    rfl

theorem outstanding_freeing {n : Nat} (hn : n ∈ a.live) (hd : b.data = some n) :
    (a.freeing b).outstanding = a.outstanding - 1 := by
  unfold outstanding freeing
  rw [hd]
  exact List.length_erase_of_mem hn

end Arena

namespace World

/-- No free that is still to come is made to come to anything else. -/
def Frees (w : World) : Prop := ∀ o ∈ w.faults.free, o = none

/-- From one world to another a buffer was freed once. Besides this only the log has grown, and the script for
frees may have moved on. -/
def Released (w : World) (b : Buffer) (w' : World) : Prop :=
  ∃ script log, script <:+ w.faults.free ∧ w' =
    { w with arena := w.arena.freeing b, faults := { w.faults with free := script }, log := w.log ++ log }

variable {w w' : World} {b : Buffer}

theorem Released.arena (h : w.Released b w') : w'.arena = w.arena.freeing b := by
  obtain ⟨script, log, -, rfl⟩ := h
  rfl

theorem Released.frees (h : w.Released b w') (hs : w.Frees) : w'.Frees := by
  obtain ⟨script, log, hscript, rfl⟩ := h
  exact fun o ho => hs o (hscript.mem ho)

theorem inArena_free_eq (h : w.arena.Freeable b) :
    World.inArena (·.free b) w = .ok () { w with arena := w.arena.freeing b } := by
  simp only [World.inArena, Arena.free_of_freeable h]

end World

theorem freeThrough_eq {w : World} {b : Buffer} (space : String) (hs : w.Frees) (hb : w.arena.Freeable b) :
    ∃ script, script <:+ w.faults.free ∧ freeThrough space w.faults.free b w =
      .ok () { w with arena := w.arena.freeing b, faults := { w.faults with free := script } } := by
  cases hf : w.faults.free with
  | nil =>
    refine ⟨[], List.suffix_rfl, ?_⟩
    rw [freeThrough, World.inArena_free_eq hb, ← hf]
  | cons o rest =>
    have ho : o = none := hs o (hf ▸ List.mem_cons_self)
    subst ho
    refine ⟨rest, List.suffix_cons _ _, ?_⟩
    let moved : World := { w with faults := { w.faults with free := rest } }
    have hm : moved.arena.Freeable b := hb
    exact (bind_of_ok (v := moved) rfl).trans (World.inArena_free_eq hm)

namespace Allocator

variable {w : World} {b : Buffer}

theorem free_eq (a : Allocator) (hs : w.Frees) (hb : w.arena.Freeable b) :
    ∃ script, script <:+ w.faults.free ∧ a.free b w =
      .ok () { w with arena := w.arena.freeing b, faults := { w.faults with free := script } } := by
  unfold free
  cases a with
  | direct => exact ⟨w.faults.free, List.suffix_rfl, World.inArena_free_eq hb⟩
  | library space =>
    obtain ⟨script, hscript, h⟩ := freeThrough_eq space hs hb
    exact ⟨script, hscript, (bind_of_ok (v := w) rfl).trans h⟩

/-- A release frees its buffer, and nothing else. -/
theorem release_released (a : Allocator) (hs : w.Frees) (hb : w.arena.Freeable b) :
    ∃ w', a.release b w = .ok () w' ∧ w.Released b w' := by
  let line : LogEntry := ⟨.debug, .buffers, s!"Releasing native buffer {b.text}"⟩
  let noted : World := { w with log := w.log ++ [line] }
  obtain ⟨script, hscript, h⟩ := a.free_eq (w := noted) hs hb
  exact ⟨_, (bind_of_ok (v := noted) rfl).trans h, script, [line], hscript, rfl⟩

end Allocator

end ForeignBridge
