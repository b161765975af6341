import ForeignBridge.Callback.Dispatch
import ForeignBridge.Proofs.Frame
import ForeignBridge.Proofs.Wire.Unraised

/-!
What the steps around a call fail with. Buffers that are made and freed, and values that are sent, fail with failures
of their own, whatever the library's functions are made to come to.
-/

namespace ForeignBridge

open Failure

variable {α β : Type} {P : Failure → Prop}

/-- An action that fails, if it does, in such a way, whatever the world. -/
def Act.FailsAs (P : Failure → Prop) (x : Act α) : Prop := ∀ w f w', x w = .error f w' → P f

namespace Act.FailsAs

variable {x : Act α} {f : α → Act β}

theorem pure (a : α) : (Pure.pure a : Act α).FailsAs P := nofun

theorem throw {e : Failure} (h : P e) : (MonadExcept.throw e : Act α).FailsAs P := by
  intro w f w' hf
  cases hf
  exact h

theorem ofExcept {r : Except Failure α} (h : ForeignBridge.FailsAs P r) :
    (MonadExcept.ofExcept r : Act α).FailsAs P := by
  cases r with
  | ok a => exact pure a
  | error e => exact throw (h e rfl)

theorem bind (hx : x.FailsAs P) (hf : ∀ a, (f a).FailsAs P) : (x >>= f).FailsAs P := by
  intro w e w' h
  obtain h | ⟨a, v, -, h⟩ := bind_eq_error h
  · exact hx w e w' h
  · exact hf a v e w' h

theorem map (g : α → β) (hx : x.FailsAs P) : (g <$> x).FailsAs P := by
  intro w e w' h
  change EStateM.map g x w = _ at h
  unfold EStateM.map at h
  cases hr : x w with
  | ok a v =>
    rw [hr] at h
    cases h
  | error e' v =>
    rw [hr] at h
    cases h
    exact hx w _ _ hr

theorem read : (get : Act World).FailsAs P := nofun

theorem change (g : World → World) : (modify g : Act Unit).FailsAs P := nofun

theorem note (level : Level) (channel : Channel) (message : String) :
    (World.note level channel message).FailsAs P := change _

theorem inArena {g : Arena → Except Failure α × Arena} (h : ∀ a, ForeignBridge.FailsAs P (g a).1) :
    (World.inArena g).FailsAs P := by
  intro w e w' hw
  have ha := h w.arena
  unfold World.inArena at hw
  rcases hg : g w.arena with ⟨_ | _, a⟩
  · rw [hg] at ha hw
    cases hw
    exact ha e rfl
  · rw [hg] at hw
    cases hw

theorem andFinally {last : Act Unit} (hx : x.FailsAs P) (hl : last.FailsAs P) :
    (World.andFinally x last).FailsAs P := by
  intro w e w' h
  unfold World.andFinally at h
  cases hr : x w with
  | ok a v =>
    cases hv : last v <;> simp only [hr, hv] at h <;> cases h
    exact hl v _ _ hv
  | error e' v =>
    cases hv : last v <;> simp only [hr, hv] at h <;> cases h
    · exact hx w _ _ hr
    · exact hl v _ _ hv

theorem onFailure {handle : Failure → Act Unit} (hx : x.FailsAs P) (hh : ∀ e, (handle e).FailsAs P) :
    (World.onFailure x handle).FailsAs P := by
  intro w e w' h
  unfold World.onFailure at h
  cases hr : x w with
  | ok a v =>
    rw [hr] at h
    cases h
  | error e' v =>
    cases hv : handle e' v <;> simp only [hr, hv] at h <;> cases h
    · exact hx w _ _ hr
    · exact hh e' v _ _ hv

end Act.FailsAs

open Act.FailsAs

/-! ### Buffers -/

theorem Arena.free_unraised (b : Buffer) (a : Arena) : FailsAs Unraised (a.free b).1 := by
  fun_cases Arena.free a b
  · exact .ok ()
  · exact .ok ()
  · exact .error rfl

theorem Arena.copy_unraised (data : Bytes) (a : Arena) : FailsAs Unraised (a.copy data).1 := by
  unfold Arena.copy
  dsimp only
  split
  · exact .error rfl
  · exact .ok _

variable {free : Buffer → Act Unit}

theorem releaseWith_unraised (hf : ∀ b, (free b).FailsAs Unraised) (b : Buffer) :
    (releaseWith free b).FailsAs Unraised :=
  bind (note _ _ _) fun _ => hf b

theorem settleWith_unraised (hf : ∀ b, (free b).FailsAs Unraised) (s : CallStatus) :
    (settleWith free none s).FailsAs Unraised := by
  have hr := releaseWith_unraised hf s.error
  have hview : (viewOf s.error).FailsAs Unraised := bind read fun _ => pure _
  have hm : (liftMessageWith free s.error).FailsAs Unraised :=
    andFinally (bind hview fun _ => pure _) hr
  unfold settleWith
  split_ifs
  · exact pure _
  · exact bind hr fun _ => throw rfl
  · exact bind hm fun _ => throw rfl
  · exact bind hr fun _ => throw rfl
  · exact throw rfl
  · exact throw rfl

theorem noteFailedCall_unraised (name : String) (f : Failure) : (noteFailedCall name f).FailsAs Unraised := by
  fun_cases noteFailedCall name f
  · exact note _ _ _
  · exact note _ _ _
  · exact pure _

theorem writeOutcome_unraised (o : NativeOutcome) : (writeOutcome o).FailsAs Unraised :=
  inArena fun _ => .ok _

theorem freeThrough_unraised (space : String) (script : FaultScript) (b : Buffer) :
    (freeThrough space script b).FailsAs Unraised := by
  induction script generalizing b with
  | nil => exact inArena (Arena.free_unraised b)
  | cons o rest ih =>
    have hc : (modify fun w => { w with faults := { w.faults with free := rest } } : Act Unit).FailsAs Unraised :=
      change _
    cases o with
    | none => exact bind hc fun _ => inArena (Arena.free_unraised b)
    | some o =>
      have hs (s : CallStatus) : (World.onFailure (settleWith (freeThrough space rest) none s)
          (noteFailedCall (Allocator.freeSymbol space))).FailsAs Unraised :=
        onFailure (settleWith_unraised ih s) (noteFailedCall_unraised _)
      exact bind hc fun _ => bind (writeOutcome_unraised o) fun s => bind (hs s) fun _ => pure _

namespace Allocator

theorem free_unraised (a : Allocator) (b : Buffer) : (a.free b).FailsAs Unraised := by
  cases a with
  | direct => exact inArena (Arena.free_unraised b)
  | library space => exact Act.FailsAs.bind .read fun w => freeThrough_unraised space _ b

theorem copy_unraised (a : Allocator) (data : Bytes) : (a.copy data).FailsAs Unraised := by
  have hc : (some <$> World.inArena (·.copy data) : Act (Option Buffer)).FailsAs Unraised :=
    map _ (inArena (Arena.copy_unraised data))
  cases a with
  | direct => exact hc
  | library space =>
    have hs (s : CallStatus) : (World.onFailure ((library space).settle none s)
        (noteFailedCall (copySymbol space))).FailsAs Unraised :=
      onFailure (settleWith_unraised (free_unraised _) s) (noteFailedCall_unraised _)
    refine .bind .read fun w => ?_
    unfold makeThrough
    split
    · exact hc
    · exact .bind (change _) fun _ => hc
    · exact .bind (change _) fun _ => .bind (writeOutcome_unraised _) fun s => .bind (hs s) fun _ => pure _

end Allocator

/-! ### Values that are sent -/

theorem register_unraised (registry : Nat) (v : Value) : (register registry v).FailsAs Unraised := by
  intro w f w' h
  unfold register at h
  cases ht : w.registries[registry]? with
  | none =>
    rw [ht] at h
    cases h
    rfl
  | some t =>
    rw [ht] at h
    dsimp only at h
    unfold HandleTable.insert at h
    split_ifs at h
    cases h
    rfl

theorem handleBytes_unraised (i : Int) : (handleBytes i).FailsAs Unraised := by
  have hp := (Layout.packInt_failsInWords .u64 i).unraised
  unfold handleBytes
  cases h : Layout.u64.packInt i with
  | ok data => exact pure _
  | error f => exact throw (hp f h)

namespace Dispatcher

theorem run_unraised (p : Piece) : (p.run noObjects).FailsAs Unraised := by
  cases p with
  | raw data => exact pure data
  | object v => cases v <;> exact throw rfl
  | callback registry v => exact bind (register_unraised registry v) handleBytes_unraised

theorem runPieces_unraised (pieces : List Piece) : (runPieces noObjects pieces).FailsAs Unraised := by
  induction pieces with
  | nil => exact pure []
  | cons p rest ih => exact bind (run_unraised p) fun front => bind ih fun back => pure _

theorem send_unraised (s : Shape) (v : Value) : (s.send noObjects v).FailsAs Unraised := by
  have hw := s.write_unraised v
  apply bind (ofExcept (s.check_unraised v))
  intro _
  apply bind (runPieces_unraised _)
  intro data
  cases h : (s.write v).failure with
  | none => exact pure data
  | some f => exact throw (hw f h)

theorem lower_unraised (a : Allocator) (s : Shape) (v : Value) : (a.lower noObjects s v).FailsAs Unraised :=
  bind (send_unraised s v) fun data => a.copy_unraised data

theorem expectBuffer_unraised (b : Option Buffer) : (expectBuffer b).FailsAs Unraised := by
  cases b with
  | none => exact throw rfl
  | some b => exact pure b

end Dispatcher

end ForeignBridge
