import ForeignBridge.Proofs.Memory.Serving

/-!
The bridge of buffers. Lifting is decoding and one release; lowering a value is encoding it and then asking for one
copy. So what is lowered and lifted comes out as it comes out of its encoding, and no buffer is left over.
-/

namespace ForeignBridge

open Act

namespace Shape

variable {s : Shape} {b : Buffer} {w w' : World}

theorem lower_eq (hp : s.isPlain) (a : Allocator) (types : ObjectTypes) (v : Value) (w : World) :
    a.lower types s v w = match s.encode v with
      | .ok data => a.copy data w
      | .error f => .error f w := by
  have hs := send_plain hp types v w
  cases he : s.encode v with
  | ok data =>
    rw [he] at hs
    exact bind_of_ok hs
  | error f =>
    rw [he] at hs
    exact bind_of_error hs

end Shape

/-- From one world to another bytes were copied into a new buffer, and no free was made to fail. -/
structure World.Copied (w : World) (b : Buffer) (data : Bytes) (w' : World) : Prop where
  holds : w'.Holds b data
  outstanding : w'.arena.outstanding = w.arena.outstanding + 1
  frees : w'.faults.free = w.faults.free

namespace Allocator

variable {w w' : World} {b : Buffer} {data : Bytes}

theorem inArena_copied (h : World.inArena (·.copy data) w = .ok b w') : w.Copied b data w' := by
  unfold World.inArena Arena.copy at h
  by_cases hr : w.arena.refusals.contains (w.arena.copies + 1)
  · simp only [hr, if_true] at h
    cases h
  · simp only [hr] at h
    cases h
    refine ⟨⟨rfl, ⟨w.arena.contents.length + 1, ?_, rfl⟩, ?_⟩, ?_, rfl⟩
    · simp [Arena.place]
    · simp [Arena.place, Arena.view, Arena.bytesOf]
    · simp [Arena.place, Arena.outstanding]

theorem some_copied (h : (some <$> World.inArena (·.copy data)) w = .ok (some b) w') : w.Copied b data w' := by
  apply inArena_copied
  change EStateM.map some _ w = _ at h
  unfold EStateM.map at h
  cases hc : World.inArena (·.copy data) w with
  | ok c w₁ =>
    rw [hc] at h
    cases h
    rfl
  | error f w₁ =>
    rw [hc] at h
    cases h

/-- Where an allocator gives a buffer at all, it is a new one with a copy of the bytes. -/
theorem copy_copied (a : Allocator) (h : a.copy data w = .ok (some b) w') : w.Copied b data w' := by
  cases a with
  | direct => exact some_copied h
  | library space =>
    obtain ⟨_, _, hget, hmake⟩ := bind_eq_ok h
    cases hget
    unfold makeThrough at hmake
    rcases hs : w.faults.copy with _ | ⟨_ | o, rest⟩
    · rw [hs] at hmake
      exact some_copied hmake
    · rw [hs] at hmake
      obtain ⟨_, _, hmove, hcopy⟩ := bind_eq_ok hmake
      cases hmove
      obtain ⟨hh, ho, hf⟩ := some_copied hcopy
      exact ⟨hh, ho, hf⟩
    · -- an outcome in place of the function makes no buffer
      rw [hs] at hmake
      obtain ⟨_, _, _, hwrite⟩ := bind_eq_ok hmake
      obtain ⟨_, _, _, hsettle⟩ := bind_eq_ok hwrite
      obtain ⟨_, _, _, hnone⟩ := bind_eq_ok hsettle
      cases hnone

/-- A buffer that was just copied can be lifted and leaves no trace in the count of live buffers. -/
theorem lift_copied (a : Allocator) {s : Shape} (hp : s.isPlain) (hc : w.Copied b data w') (hf : w.Frees) :
    ∃ w₂, a.lift s b w' = (ofExcept (s.decode data) : Act Value) w₂ ∧
      w₂.arena.outstanding = w.arena.outstanding := by
  obtain ⟨n, hn, hd⟩ := hc.holds.live
  have hfrees : w'.Frees := by
    unfold World.Frees
    rw [hc.frees]
    exact hf
  obtain ⟨w₂, hr, hreleased⟩ := a.release_released hfrees hc.holds.freeable
  refine ⟨w₂, ?_, ?_⟩
  · have hl := Shape.liftWith_of_released hp hr
    rw [hc.holds.view] at hl
    exact hl
  · rw [hreleased.arena, Arena.outstanding_freeing hn hd, hc.outstanding]
    rfl

end Allocator

/-- What lifting and lowering do in a shape, told by its codec. -/
structure Shape.Bridges (s : Shape) : Prop where
  /-- whatever function frees, if it succeeds: lifted is what the readable bytes decode to, and to release the buffer
  once is all that is done -/
  lift : ∀ free b w w', releaseWith free b w = .ok () w' →
    liftWith free s b w = (ofExcept (s.decode (w.arena.view b)) : Act Value) w'
  /-- through an allocator the buffer is freed once, and all others are left alone -/
  frees : ∀ (a : Allocator) b w, w.Frees → w.arena.Freeable b → ∃ w', w.Released b w' ∧
    a.lift s b w = (ofExcept (s.decode (w.arena.view b)) : Act Value) w'
  /-- a received buffer, read once and consumed to its end, comes to what lifting it comes to -/
  consume : ∀ (a : Allocator) b w,
    (⟨b, false⟩ : ReceivedBuffer).consume a (some s.typeName) (s.read w.lookup) w = a.lift s b w
  /-- one copy of the encoding is asked for; if there is no encoding, nothing is done -/
  lower : ∀ (a : Allocator) types v w, a.lower types s v w = match s.encode v with
    | .ok data => a.copy data w
    | .error f => .error f w
  /-- what was lowered is lifted as its encoding is decoded, and as many buffers are live as before -/
  back : ∀ (a : Allocator) types v w b w₁, w.Frees → a.lower types s v w = .ok (some b) w₁ →
    ∃ data w₂, s.encode v = .ok data ∧ a.lift s b w₁ = (ofExcept (s.decode data) : Act Value) w₂ ∧
      w₂.arena.outstanding = w.arena.outstanding

/-- The bridge is the codec, and exact ownership of the buffers. -/
theorem Shape.bridges {s : Shape} (hp : s.isPlain) : s.Bridges where
  lift free b w w' := liftWith_of_released hp
  frees a b w hf hb := by
    obtain ⟨w', hr, hreleased⟩ := a.release_released hf hb
    exact ⟨w', hreleased, liftWith_of_released hp hr⟩
  consume a b w := consume_eq_lift a s b w
  lower a types v w := lower_eq hp a types v w
  back a types v w b w₁ hf h := by
    rw [lower_eq hp] at h
    cases he : s.encode v with
    | error f =>
      rw [he] at h
      cases h
    | ok data =>
      rw [he] at h
      obtain ⟨w₂, hl, ho⟩ := a.lift_copied hp (a.copy_copied h) hf
      exact ⟨data, w₂, rfl, hl, ho⟩

/-- A world with two live buffers. -/
def twoBuffers : World := { World.new [] with arena := ⟨[[1, 1, 9], [0]], [1, 2], [], 0, []⟩ }

/-- A byte is left over, so lifting fails as decoding does; the buffer is freed all the same, and the other one is
not. -/
theorem Shape.bridges_leftover :
    (Shape.optional .boolean).isPlain ∧ twoBuffers.Frees ∧ twoBuffers.arena.Freeable ⟨3, 3, some 1⟩ ∧
      ∃ w', Allocator.direct.lift (.optional .boolean) ⟨3, 3, some 1⟩ twoBuffers =
          .error (.trailing 1 (some "Optional[Boolean]")) w' ∧
        w'.arena.live = [2] ∧ w'.arena.freed = [1] := by
  have hf : twoBuffers.Frees := nofun
  have hb : twoBuffers.arena.Freeable ⟨3, 3, some 1⟩ := by
    intro n hn
    cases hn
    exact List.mem_cons_self
  obtain ⟨w', hr, hl⟩ := (Shape.bridges (s := .optional .boolean) rfl).frees .direct _ _ hf hb
  refine ⟨rfl, hf, hb, w', hl, ?_, ?_⟩
  · rw [hr.arena]
    rfl
  · rw [hr.arena]
    rfl

end ForeignBridge
