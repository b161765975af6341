import ForeignBridge.Proofs.Native.Settlement

/-!
Accounts of buffers. While frees succeed, an action accounts for the buffers that are live after it: those that were
live before, those that it gives, and those that came with outcomes that stood in for copies and whose settling left
them alone.
-/

namespace ForeignBridge

open Act

variable {α β γ : Type}

/-- Whether an outcome comes with a buffer that settling it leaves alone. -/
def NativeOutcome.strays (o : NativeOutcome) : Bool :=
  let s := (o.write (.new [])).1
  s.error.data.isSome && !decide s.Failed

/-- Through an allocator, one world became another, in which the buffers of these numbers are new and nothing else is
live that was not, but for what outcomes brought that stood in for copies. -/
structure World.Accounts (a : Allocator) (w : World) (made : List Nat) (w' : World) : Prop where
  frees : w'.Frees
  balance : ∃ used stray, w.faults.copy = used ++ w'.faults.copy ∧ (a = .direct → used = []) ∧
    w'.arena.live.Perm (w.arena.live ++ made ++ stray) ∧ stray.length = used.countP (·.any NativeOutcome.strays)

namespace World.Accounts

variable {a : Allocator} {w w₁ w' : World} {made more : List Nat}

theorem of_eq (hf : w.Frees) (ha : w'.arena = w.arena) (hfaults : w'.faults = w.faults) : w.Accounts a [] w' where
  frees := by
    unfold Frees
    rw [hfaults]
    exact hf
  balance := by
    refine ⟨[], [], by rw [hfaults, List.nil_append], fun _ => rfl, ?_, rfl⟩
    rw [ha, List.append_nil, List.append_nil]

theorem trans (h : w.Accounts a made w₁) (h' : w₁.Accounts a more w') : w.Accounts a (made ++ more) w' where
  frees := h'.frees
  balance := by
    obtain ⟨used, stray, hused, hdirect, hlive, hstray⟩ := h.balance
    obtain ⟨used', stray', hused', hdirect', hlive', hstray'⟩ := h'.balance
    refine ⟨used ++ used', stray ++ stray', ?_, ?_, ?_, ?_⟩
    · rw [hused, hused', List.append_assoc]
    · intro ha
      rw [hdirect ha, hdirect' ha]
      rfl
    · rw [List.perm_iff_count] at hlive hlive' ⊢
      intro n
      have hn := hlive n
      have hn' := hlive' n
      simp only [List.count_append] at hn hn' ⊢
      omega
    · rw [List.length_append, List.countP_append, hstray, hstray']

/-- A call that did its work leaves nothing behind. -/
theorem popped {rest : FaultScript} (h : World.Accounts a { w with faults := { w.faults with copy := rest } } made w')
    (hs : w.faults.copy = none :: rest) (ha : a ≠ .direct) : w.Accounts a made w' where
  frees := h.frees
  balance := by
    obtain ⟨used, stray, hused, -, hlive, hstray⟩ := h.balance
    refine ⟨none :: used, stray, ?_, fun hd => absurd hd ha, hlive, ?_⟩
    · rw [hs, List.cons_append]
      exact congrArg _ hused
    · rw [hstray, List.countP_cons_of_neg Bool.false_ne_true]

end World.Accounts

/-- What came of an action accounts for all buffers: those that are given with a result, and none with a failure. -/
def World.Accounted (a : Allocator) (w : World) (made : α → List Nat) : EStateM.Result Failure World α → Prop
  | .ok r w' => w.Accounts a (made r) w'
  | .error _ w' => w.Accounts a [] w'

/-- What came before and gave no buffers does not count. -/
theorem World.Accounted.after {a : Allocator} {w v : World} {made : α → List Nat} {r : EStateM.Result Failure World α}
    (h : w.Accounts a [] v) (hr : v.Accounted a made r) : w.Accounted a made r := by
  cases r with
  | ok b w' => exact h.trans hr
  | error e w' => exact h.trans hr

def Act.Accounts (x : Act α) (a : Allocator) (made : α → List Nat) : Prop :=
  ∀ w : World, w.Frees → w.Accounted a made (x w)

namespace Act.Accounts

variable {a : Allocator} {x : Act α} {f : α → Act β} {made : β → List Nat} {w : World}

theorem of_keeps (h : x.Keeps fun w => (w.arena, w.faults)) : x.Accounts a fun _ => [] := by
  intro w hf
  have hk := Prod.mk.inj (h w)
  unfold after at hk
  cases hx : x w with
  | ok r w' =>
    rw [hx] at hk
    exact .of_eq hf hk.1 hk.2
  | error e w' =>
    rw [hx] at hk
    exact .of_eq hf hk.1 hk.2

theorem pure {b : β} (h : made b = []) : (Pure.pure b : Act β).Accounts a made := by
  intro w hf
  change w.Accounts a (made b) w
  rw [h]
  exact .of_eq hf rfl rfl

theorem throw (e : Failure) : (MonadExcept.throw e : Act β).Accounts a made := fun _ hf => .of_eq hf rfl rfl

theorem ofExcept (r : Except Failure β) (h : ∀ b, made b = []) : (MonadExcept.ofExcept r : Act β).Accounts a made := by
  cases r with
  | ok b => exact pure (h b)
  | error e => exact throw e

/-- What comes first may not give buffers, as they would be lost if what follows fails. -/
theorem bind (hx : x.Accounts a fun _ => []) (hf : ∀ r, (f r).Accounts a made) : (x >>= f).Accounts a made := by
  intro w hw
  have h := hx w hw
  cases hr : x w with
  | ok r v =>
    rw [hr] at h
    rw [bind_of_ok hr]
    exact .after h (hf r v h.frees)
  | error e v =>
    rw [hr] at h
    rw [bind_of_error hr]
    exact h

theorem map {g : α → β} (hx : x.Accounts a fun r => made (g r)) : (do return g (← x) : Act β).Accounts a made := by
  intro w hw
  have h := hx w hw
  cases hr : x w with
  | ok r v =>
    rw [hr] at h
    rw [bind_of_ok hr]
    exact h
  | error e v =>
    rw [hr] at h
    rw [bind_of_error hr]
    exact h

end Act.Accounts

/-- From one world to another, which buffers are live then, with all copies as they were scripted. -/
structure World.Leaves (w : World) (live : List Nat) (w' : World) : Prop where
  frees : w'.Frees
  copy : w'.faults.copy = w.faults.copy
  live : w'.arena.live.Perm live

namespace Allocator

variable {w : World}

/-- The buffer that a copy gives, if it gives one. -/
def given (b : Option Buffer) : List Nat := b.elim [] (·.data.toList)

theorem inArena_accounts (a : Allocator) (data : Bytes) :
    (some <$> World.inArena (·.copy data) : Act (Option Buffer)).Accounts a given := by
  intro w hf
  change w.Accounted a given (EStateM.map some (World.inArena (·.copy data)) w)
  unfold EStateM.map World.inArena Arena.copy
  by_cases hr : w.arena.refusals.contains (w.arena.copies + 1)
  · simp only [hr, if_true]
    refine ⟨hf, [], [], rfl, fun _ => rfl, ?_, rfl⟩
    rw [List.append_nil, List.append_nil]
  · simp only [hr]
    refine ⟨hf, [], [], rfl, fun _ => rfl, ?_, rfl⟩
    rw [List.append_nil]
    exact .refl _

theorem release_leaves (a : Allocator) {b : Buffer} (hf : w.Frees) (hb : w.arena.Freeable b) :
    w.Leaves (b.data.elim w.arena.live w.arena.live.erase) ((a.release b).after w) := by
  obtain ⟨w', hr, hreleased⟩ := a.release_released hf hb
  rw [after_of_ok hr]
  refine ⟨hreleased.frees hf, ?_, ?_⟩
  · obtain ⟨script, log, -, rfl⟩ := hreleased
    rfl
  · rw [hreleased.arena]
    exact .refl _

/-- Settling a status without a buffer leaves the same buffers live. -/
theorem settle_null_leaves (a : Allocator) {s : CallStatus} (hf : w.Frees) (hs : s.error.data = none) :
    w.Leaves w.arena.live ((a.settle none s).after w) := by
  rcases settleWith_after_cases a.free none s w with h | h
  · have hb : w.arena.Freeable s.error := by
      intro n hn
      rw [hs] at hn
      cases hn
    have hrelease := a.release_leaves hf hb
    rw [hs] at hrelease
    rwa [settle, h]
  · rw [settle, h]
    exact ⟨hf, rfl, .refl _⟩

/-- A buffer that came with an outcome is live after settling it just if the outcome strays. -/
theorem settle_outcome_leaves (a : Allocator) (o : NativeOutcome) (hf : w.Frees) :
    ∃ stray, stray.length = o.strays.toNat ∧
      w.Leaves (w.arena.live ++ stray)
        ((a.settle none (o.write w.arena).1).after { w with arena := (o.write w.arena).2 }) := by
  unfold NativeOutcome.strays
  cases hp : o.payload with
  | none =>
    simp only [NativeOutcome.write, hp]
    refine ⟨[], rfl, ?_⟩
    rw [List.append_nil]
    exact a.settle_null_leaves hf rfl
  | unbacked n =>
    simp only [NativeOutcome.write, hp]
    refine ⟨[], rfl, ?_⟩
    rw [List.append_nil]
    exact a.settle_null_leaves hf rfl
  | data bytes =>
    simp only [NativeOutcome.write, hp]
    let s : CallStatus := ⟨signedOf 1 (residueOf 1 o.code), (w.arena.place bytes).1⟩
    let v : World := { w with arena := (w.arena.place bytes).2 }
    let n := w.arena.contents.length + 1
    have hlive : v.arena.live = w.arena.live ++ [n] := rfl
    have hsettle : (a.settle none s).after v = _ := settleWith_after a.free none rfl v
    change ∃ stray : List Nat, stray.length = (!decide s.Failed).toNat ∧
      w.Leaves (w.arena.live ++ stray) ((a.settle none s).after v)
    rw [hsettle]
    by_cases hfailed : s.Failed
    · have hb : v.arena.Freeable s.error := by
        rintro _ ⟨⟩
        rw [hlive]
        exact List.mem_append_right _ List.mem_cons_self
      obtain ⟨hfrees, hcopy, hperm⟩ := a.release_leaves (w := v) hf hb
      have hback : (v.arena.live.erase n).Perm (w.arena.live ++ []) := by
        rw [hlive, List.append_nil]
        refine (List.perm_append_comm.erase n).trans ?_
        rw [List.singleton_append, List.erase_cons_head]
      rw [if_pos hfailed]
      exact ⟨[], by simp [hfailed], hfrees, hcopy, hperm.trans hback⟩
    · rw [if_neg hfailed]
      refine ⟨[n], by simp [hfailed], hf, rfl, ?_⟩
      rw [hlive]

theorem noteFailedCall_keeps (name : String) (e : Failure) :
    (noteFailedCall name e).Keeps fun w => (w.arena, w.faults) := by
  unfold noteFailedCall
  split
  · exact .change fun _ => rfl
  · exact .change fun _ => rfl
  · exact .pure _

/-- An outcome in place of a copy accounts for what it leaves behind. -/
theorem scripted_accounts (a : Allocator) (name : String) {o : NativeOutcome} {rest : FaultScript} (ha : a ≠ .direct)
    (hs : w.faults.copy = some o :: rest) (hf : w.Frees) :
    w.Accounts a [] ((World.onFailure (a.settle none (o.write w.arena).1) (noteFailedCall name)).after
      { w with faults := { w.faults with copy := rest }, arena := (o.write w.arena).2 }) := by
  let moved : World := { w with faults := { w.faults with copy := rest } }
  obtain ⟨stray, hstray, hfrees, hcopy, hlive⟩ := a.settle_outcome_leaves (w := moved) o hf
  let x := World.onFailure (a.settle none (o.write w.arena).1) (noteFailedCall name)
  let v : World := { moved with arena := (o.write w.arena).2 }
  obtain ⟨harena, hfaults⟩ := Prod.mk.inj (after_onFailure (noteFailedCall_keeps name) v :
    ((x.after v).arena, (x.after v).faults) = _)
  refine ⟨?_, [some o], stray, ?_, fun hd => absurd hd ha, ?_, ?_⟩
  · unfold World.Frees
    rw [hfaults]
    exact hfrees
  · rw [hfaults, hcopy, hs]
    rfl
  · rw [harena, List.append_nil]
    exact hlive
  · rw [hstray, List.countP_singleton]
    cases ho : o.strays <;> simp [ho]

/-- A copy accounts for the buffer that it gives, and for what came with an outcome in its place. -/
theorem copy_accounts (a : Allocator) (data : Bytes) : (a.copy data).Accounts a given := by
  cases a with
  | direct => exact inArena_accounts .direct data
  | library space =>
    intro w hf
    change w.Accounted (.library space) given ((library space).makeThrough (copySymbol space) w.faults.copy
      (fun r f => { f with copy := r }) (·.copy data) w)
    unfold makeThrough
    rcases hs : w.faults.copy with _ | ⟨_ | o, rest⟩
    · exact inArena_accounts (library space) data w hf
    · let moved : World := { w with faults := { w.faults with copy := rest } }
      have hcopy := inArena_accounts (library space) data moved hf
      change w.Accounted (library space) given ((some <$> World.inArena (·.copy data)) moved)
      cases hrun : (some <$> World.inArena (·.copy data)) moved with
      | ok r w' =>
        rw [hrun] at hcopy
        exact hcopy.popped hs nofun
      | error e w' =>
        rw [hrun] at hcopy
        exact hcopy.popped hs nofun
    · let v : World := { w with faults := { w.faults with copy := rest }, arena := (o.write w.arena).2 }
      have haccounts := scripted_accounts (library space) (copySymbol space) nofun hs hf
      change w.Accounted (library space) given
        ((World.onFailure ((library space).settle none (o.write w.arena).1) (noteFailedCall (copySymbol space)) >>=
          fun _ => pure none) v)
      change w.Accounts (library space) [] ((World.onFailure _ _).after v) at haccounts
      cases hrun : World.onFailure ((library space).settle none (o.write w.arena).1)
        (noteFailedCall (copySymbol space)) v with
      | ok r w' =>
        rw [after_of_ok hrun] at haccounts
        rw [bind_of_ok hrun]
        exact haccounts
      | error e w' =>
        rw [after_of_error hrun] at haccounts
        rw [bind_of_error hrun]
        exact haccounts

end Allocator

end ForeignBridge
