import ForeignBridge.Proofs.Memory.Bridge

/-!
What settling a call does with the error buffer of its status. At a declared error and at a fault the buffer is
released, once, whether its bytes could be read or not. At success, and at a code that stands for nothing, it is
left alone, so whatever the native side put there stays allocated.
-/

namespace ForeignBridge

open Act

/-- Reading the bytes of a buffer changes nothing, so what lifting leaves is what the release leaves. -/
theorem liftWith_after (free : Buffer → Act Unit) (s : Shape) (b : Buffer) (w : World) :
    (liftWith free s b).after w = (releaseWith free b).after w := by
  let reading : Act Value := do return (← readBytes (s.readAll w.lookup) (w.arena.view b)).1
  have hread : reading.Keeps id := .bind (Apart.readBytes _ _) fun _ => .pure _
  calc (liftWith free s b).after w
      = (World.andFinally reading (releaseWith free b)).after w := by rw [after, Shape.liftWith_eq, after]
    _ = (releaseWith free b).after (reading.after w) := after_andFinally _ _ w
    _ = (releaseWith free b).after w := congrArg _ (hread w)

theorem liftMessageWith_after (free : Buffer → Act Unit) (b : Buffer) (w : World) :
    (liftMessageWith free b).after w = (releaseWith free b).after w := by
  have hread : (do return Utf8.decodeReplacing (← viewOf b) : Act String).Keeps id :=
    .bind (Apart.viewOf b) fun _ => .pure _
  exact (after_andFinally _ _ w).trans (congrArg _ (hread w))

namespace CallStatus

/-- Whether a status reports a declared error or a fault. -/
def Failed (s : CallStatus) : Prop := s.code = declaredError ∨ s.code = unexpectedError

instance (s : CallStatus) : Decidable s.Failed := inferInstanceAs (Decidable (_ ∨ _))

end CallStatus

variable {s : CallStatus} {w : World}

theorem settleWith_declared (free : Buffer → Act Unit) (errors : Option Shape)
    (h : s.code = CallStatus.declaredError) :
    settleWith free errors s =
      (match errors with
      | none => do
        releaseWith free s.error
        throw .undeclaredError
      | some shape => do return some (← liftWith free shape s.error)) := by
  have hs : s.code ≠ CallStatus.success := by
    rw [h]
    decide
  unfold settleWith
  exact (if_neg hs).trans (if_pos h)

theorem settleWith_fault (free : Buffer → Act Unit) (errors : Option Shape)
    (h : s.code = CallStatus.unexpectedError) :
    settleWith free errors s =
      (if 0 < s.error.len then do throw (.panic (← liftMessageWith free s.error))
      else do
        if s.error.data.isSome then releaseWith free s.error
        throw .faultWhileHandlingFault) := by
  have hs : s.code ≠ CallStatus.success := by
    rw [h]
    decide
  have hd : s.code ≠ CallStatus.declaredError := by
    rw [h]
    decide
  unfold settleWith
  rw [if_neg hs, if_neg hd, if_pos h]

theorem settleWith_after_declared (free : Buffer → Act Unit) (errors : Option Shape)
    (h : s.code = CallStatus.declaredError) (w : World) :
    (settleWith free errors s).after w = (releaseWith free s.error).after w := by
  rw [settleWith_declared free errors h]
  cases errors with
  | none => exact after_bind_idle (fun _ => .throw _) w
  | some shape => exact (after_bind_idle (fun _ => .pure _) w).trans (liftWith_after free shape s.error w)

theorem settleWith_after_fault (free : Buffer → Act Unit) (errors : Option Shape)
    (h : s.code = CallStatus.unexpectedError) (hb : 0 < s.error.len ∨ s.error.data.isSome) (w : World) :
    (settleWith free errors s).after w = (releaseWith free s.error).after w := by
  rw [settleWith_fault free errors h]
  by_cases hl : 0 < s.error.len
  · rw [if_pos hl]
    exact (after_bind_idle (fun _ => .throw _) w).trans (liftMessageWith_after free s.error w)
  · rw [if_neg hl, if_pos (hb.resolve_left hl)]
    exact after_bind_idle (fun _ => .throw _) w

theorem settleWith_after_other (free : Buffer → Act Unit) (errors : Option Shape) (h : ¬ s.Failed) (w : World) :
    (settleWith free errors s).after w = w := by
  have hd : s.code ≠ CallStatus.declaredError := fun hd => h (.inl hd)
  have hf : s.code ≠ CallStatus.unexpectedError := fun hf => h (.inr hf)
  unfold settleWith
  by_cases hs : s.code = CallStatus.success
  · rw [if_pos hs]
    rfl
  · rw [if_neg hs, if_neg hd, if_neg hf]
    rfl

theorem settleWith_after (free : Buffer → Act Unit) (errors : Option Shape) (hb : s.error.data.isSome) (w : World) :
    (settleWith free errors s).after w = if s.Failed then (releaseWith free s.error).after w else w := by
  split_ifs with h
  · rcases h with hd | hf
    · exact settleWith_after_declared free errors hd w
    · exact settleWith_after_fault free errors hf (.inr hb) w
  · exact settleWith_after_other free errors h w

/-- Whatever the error buffer is, settling does no more than to release it. -/
theorem settleWith_after_cases (free : Buffer → Act Unit) (errors : Option Shape) (s : CallStatus) (w : World) :
    (settleWith free errors s).after w = (releaseWith free s.error).after w ∨
      (settleWith free errors s).after w = w := by
  by_cases h : s.Failed
  · rcases h with hd | hf
    · exact .inl (settleWith_after_declared free errors hd w)
    · by_cases hb : 0 < s.error.len ∨ s.error.data.isSome
      · exact .inl (settleWith_after_fault free errors hf hb w)
      · refine .inr ?_
        rw [not_or] at hb
        rw [settleWith_fault free errors hf, if_neg hb.1, if_neg hb.2]
        rfl
  · exact .inr (settleWith_after_other free errors h w)

/-- An error buffer that is not null is released once at a declared error and at a fault, whatever function frees and
whatever is made of the bytes; so through an allocator it is freed once. At any other code nothing is done. -/
theorem settle_releases (hb : s.error.data.isSome) (errors : Option Shape) :
    (∀ free w, (settleWith free errors s).after w = if s.Failed then (releaseWith free s.error).after w else w) ∧
      ∀ (a : Allocator) w, w.Frees → w.arena.Freeable s.error →
        if s.Failed then w.Released s.error ((a.settle errors s).after w) else (a.settle errors s).after w = w := by
  refine ⟨fun free w => settleWith_after free errors hb w, fun a w hf hfree => ?_⟩
  have hafter := settleWith_after a.free errors hb w
  split_ifs at hafter ⊢ with h
  · obtain ⟨w', hr, hreleased⟩ := a.release_released hf hfree
    have he : (a.settle errors s).after w = w' := hafter.trans (after_of_ok hr)
    rwa [he]
  · exact hafter

/-- The bytes of a declared error are cut short, so they cannot be read, but their buffer is freed. -/
theorem settle_releases_unreadable :
    (⟨3, 3, some 1⟩ : Buffer).data.isSome ∧ twoBuffers.Frees ∧ twoBuffers.arena.Freeable ⟨3, 3, some 1⟩ ∧
      ∃ w', Allocator.direct.settle (some (.errors "E" ["K"])) ⟨1, ⟨3, 3, some 1⟩⟩ twoBuffers =
          .error (.underflow 4 3) w' ∧
        w'.arena.live = [2] ∧ w'.arena.freed = [1] := by
  let status : CallStatus := ⟨1, ⟨3, 3, some 1⟩⟩
  have hf : twoBuffers.Frees := nofun
  have hb : twoBuffers.arena.Freeable status.error := by
    intro n hn
    cases hn
    exact List.mem_cons_self
  have hr := (settle_releases (s := status) rfl (some (.errors "E" ["K"]))).2 .direct twoBuffers hf hb
  rw [if_pos (by decide)] at hr
  refine ⟨rfl, hf, hb, _, rfl, ?_, ?_⟩
  · exact congrArg Arena.live hr.arena
  · exact congrArg Arena.freed hr.arena

/-- At success and at an unknown code the error buffer stays allocated. -/
theorem settle_leaves_buffer :
    ((Allocator.direct.settle none ⟨0, ⟨3, 3, some 1⟩⟩).after twoBuffers).arena.live = [1, 2] ∧
      ((Allocator.direct.settle none ⟨3, ⟨3, 3, some 1⟩⟩).after twoBuffers).arena.live = [1, 2] :=
  ⟨rfl, rfl⟩

end ForeignBridge
