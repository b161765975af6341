import ForeignBridge.Native.Envelope

/-!
What actions leave alone. A view is a part of the world; an action keeps it if the part is the same
afterwards, whether the action failed or not. Notes in the log and the settling of a call touch neither
guards nor the native heap.
-/

namespace ForeignBridge

variable {α β γ : Type}

namespace Act

/-- The world that an action leaves, whether it failed or not. -/
def after (x : Act α) (w : World) : World :=
  match x w with
  | .ok _ w' => w'
  | .error _ w' => w'

theorem after_of_ok {x : Act α} {w w' : World} {a : α} (h : x w = .ok a w') : x.after w = w' := by
  rw [after, h]

theorem after_of_error {x : Act α} {w w' : World} {f : Failure} (h : x w = .error f w') : x.after w = w' := by
  rw [after, h]

theorem after_congr {x y : Act α} {w v : World} (h : x w = y v) : x.after w = y.after v := by
  rw [after, after, h]

theorem bind_of_ok {x : Act α} {f : α → Act β} {w v : World} {a : α} (h : x w = .ok a v) : (x >>= f) w = f a v := by
  change EStateM.bind x f w = _
  rw [EStateM.bind, h]

theorem bind_of_error {x : Act α} {f : α → Act β} {w v : World} {e : Failure} (h : x w = .error e v) :
    (x >>= f) w = .error e v := by
  change EStateM.bind x f w = _
  rw [EStateM.bind, h]

theorem bind_of_eq {x y : Act α} {w v : World} (h : x w = y v) (f : α → Act β) : (x >>= f) w = (y >>= f) v := by
  change EStateM.bind x f w = EStateM.bind y f v
  rw [EStateM.bind, EStateM.bind, h]

/-- Where one action after another gives something, both did. -/
theorem bind_eq_ok {x : Act α} {f : α → Act β} {w w' : World} {b : β} (h : (x >>= f) w = .ok b w') :
    ∃ a v, x w = .ok a v ∧ f a v = .ok b w' := by
  cases hx : x w with
  | ok a v =>
    rw [bind_of_ok hx] at h
    exact ⟨a, v, rfl, h⟩
  | error e v =>
    rw [bind_of_error hx] at h
    cases h

/-- Where one action after another fails, one of them did. -/
theorem bind_eq_error {x : Act α} {f : α → Act β} {w w' : World} {e : Failure} (h : (x >>= f) w = .error e w') :
    x w = .error e w' ∨ ∃ a v, x w = .ok a v ∧ f a v = .error e w' := by
  cases hx : x w with
  | ok a v =>
    rw [bind_of_ok hx] at h
    exact .inr ⟨a, v, rfl, h⟩
  | error e' v =>
    rw [bind_of_error hx] at h
    cases h
    exact .inl rfl

theorem attempt_of_ok {x : Act α} {f : Except Failure α → Act β} {w v : World} {a : α} (h : x w = .ok a v) :
    (World.attempt x >>= f) w = f (.ok a) v := by
  apply bind_of_ok
  simp only [World.attempt, h]

theorem attempt_of_error {x : Act α} {f : Except Failure α → Act β} {w v : World} {e : Failure}
    (h : x w = .error e v) : (World.attempt x >>= f) w = f (.error e) v := by
  apply bind_of_ok
  simp only [World.attempt, h]

theorem bind_throw (x : Act α) (f : α → Failure) (w : World) :
    ∃ e w', (x >>= fun a => throw (f a) : Act β) w = .error e w' := by
  cases hx : x w with
  | ok a w' => exact ⟨_, _, bind_of_ok hx⟩
  | error e w' => exact ⟨_, _, bind_of_error hx⟩

theorem onFailure_of_error {x : Act α} {w v : World} {e : Failure} (h : x w = .error e v) (handle : Failure → Act Unit) :
    ∃ e' w', World.onFailure x handle w = .error e' w' := by
  unfold World.onFailure
  rw [h]
  dsimp only
  cases handle e v <;> exact ⟨_, _, rfl⟩

theorem after_onFailure_of_ok {x : Act α} {w v : World} {a : α} (h : x w = .ok a v) (handle : Failure → Act Unit) :
    (World.onFailure x handle).after w = v := by
  unfold after World.onFailure
  rw [h]

theorem after_onFailure_of_error {x : Act α} {w v : World} {e : Failure} (h : x w = .error e v)
    (handle : Failure → Act Unit) : (World.onFailure x handle).after w = (handle e).after v := by
  unfold after World.onFailure
  rw [h]
  dsimp only
  cases handle e v <;> rfl

/-- What is done in the end decides the world, unless it fails, and what was done before decides the outcome. -/
theorem andFinally_of_idle {x : Act α} {r : Except Failure α} {last : Act Unit} {w v w' : World}
    (hx : x w = (ofExcept r : Act α) v) (hl : last v = .ok () w') :
    World.andFinally x last w = (ofExcept r : Act α) w' := by
  cases r with
  | ok a =>
    have ha : x w = .ok a v := hx
    simp only [World.andFinally, ha, hl]
    rfl
  | error f =>
    have hf : x w = .error f v := hx
    simp only [World.andFinally, hf, hl]
    rfl

theorem andFinally_eq_ok {x : Act α} {last : Act Unit} {w w' : World} {a : α}
    (h : World.andFinally x last w = .ok a w') : ∃ v, x w = .ok a v ∧ last v = .ok () w' := by
  unfold World.andFinally at h
  cases hx : x w with
  | ok b v =>
    rw [hx] at h
    dsimp only at h
    cases hl : last v with
    | ok u v' =>
      rw [hl] at h
      cases h
      exact ⟨v, rfl, hl⟩
    | error e v' =>
      rw [hl] at h
      cases h
  | error e v =>
    rw [hx] at h
    dsimp only at h
    cases hl : last v with
    | ok u v' =>
      rw [hl] at h
      cases h
    | error e' v' =>
      rw [hl] at h
      cases h

/-- What is done in the end is done wherever the action itself got to. -/
theorem after_andFinally (x : Act α) (last : Act Unit) (w : World) :
    (World.andFinally x last).after w = last.after (x.after w) := by
  unfold after World.andFinally
  cases x w with
  | ok a w' => dsimp only; cases last w' <;> rfl
  | error e w' => dsimp only; cases last w' <;> rfl

/-- An action that leaves a view of the world as it is. -/
def Keeps (x : Act α) (view : World → γ) : Prop := ∀ w, view (x.after w) = view w

/-- What follows an action and keeps a view does not show in it. -/
theorem after_bind {x : Act α} {f : α → Act β} {view : World → γ} (hf : ∀ a, (f a).Keeps view) (w : World) :
    view ((x >>= f).after w) = view (x.after w) := by
  cases hr : x w with
  | ok a w' => rw [after_of_ok hr, ← hf a w', after, after, bind_of_ok hr]
  | error e w' => rw [after_of_error hr, after_of_error (bind_of_error hr)]

/-- What follows an action and changes nothing does not show at all. -/
theorem after_bind_idle {x : Act α} {f : α → Act β} (hf : ∀ a, (f a).Keeps id) (w : World) :
    (x >>= f).after w = x.after w :=
  after_bind hf w

/-- What is done with a failure and keeps a view does not show in it. -/
theorem after_onFailure {x : Act α} {handle : Failure → Act Unit} {view : World → γ}
    (hf : ∀ e, (handle e).Keeps view) (w : World) : view ((World.onFailure x handle).after w) = view (x.after w) := by
  cases hr : x w with
  | ok a w' => rw [after_onFailure_of_ok hr, after_of_ok hr]
  | error e w' => rw [after_onFailure_of_error hr, hf, after_of_error hr]

namespace Keeps

variable {x : Act α} {f : α → Act β} {view : World → γ}

theorem pure (a : α) : (Pure.pure a : Act α).Keeps view := fun _ => rfl

theorem throw (e : Failure) : (MonadExcept.throw e : Act α).Keeps view := fun _ => rfl

theorem bind (hx : x.Keeps view) (hf : ∀ a, (f a).Keeps view) : (x >>= f).Keeps view := by
  intro w
  rw [after_bind hf, hx w]

theorem map (hx : x.Keeps view) (g : α → β) : (g <$> x).Keeps view := by
  intro w
  have h := hx w
  change view (after (EStateM.map g x) w) = _
  unfold after EStateM.map
  cases hr : x w with
  | ok a w' => rwa [after_of_ok hr] at h
  | error e w' => rwa [after_of_error hr] at h

theorem change {g : World → World} (h : ∀ w, view (g w) = view w) : (modify g : Act Unit).Keeps view := h

theorem read : (get : Act World).Keeps view := fun _ => rfl

theorem attempt (hx : x.Keeps view) : (World.attempt x).Keeps view := by
  intro w
  have h := hx w
  unfold after World.attempt
  cases hr : x w with
  | ok a w' => rwa [after_of_ok hr] at h
  | error e w' => rwa [after_of_error hr] at h

theorem onFailure {handle : Failure → Act Unit} (hx : x.Keeps view) (hf : ∀ e, (handle e).Keeps view) :
    (World.onFailure x handle).Keeps view := by
  intro w
  rw [after_onFailure hf, hx w]

theorem andFinally {last : Act Unit} (hx : x.Keeps view) (hl : last.Keeps view) :
    (World.andFinally x last).Keeps view := by
  intro w
  rw [after_andFinally, hl, hx]

end Keeps

end Act

/-- A view that buffers and the log are no part of. -/
structure Apart (view : World → γ) : Prop where
  arena : ∀ w a, view { w with arena := a } = view w
  faults : ∀ w f, view { w with faults := f } = view w
  log : ∀ w l, view { w with log := l } = view w

namespace Apart

open Act

variable {view : World → γ}

theorem note (hv : Apart view) (level : Level) (channel : Channel) (message : String) :
    (World.note level channel message).Keeps view :=
  .change fun w => hv.log w _

theorem inArena (hv : Apart view) (f : Arena → Except Failure α × Arena) : (World.inArena f).Keeps view := by
  intro w
  unfold after World.inArena
  cases hf : f w.arena with
  | mk r a => cases r <;> exact hv.arena w a

theorem viewOf (b : Buffer) : (viewOf b).Keeps view := fun _ => rfl

theorem readBytes (x : Reading α) (data : Bytes) : (readBytes x data).Keeps view := by
  unfold ForeignBridge.readBytes
  cases x (.ofBytes data) with
  | ok a r => exact .pure _
  | error e r => exact .throw e

variable {free : Buffer → Act Unit}

theorem releaseWith (hv : Apart view) (hf : ∀ b, (free b).Keeps view) (b : Buffer) :
    (releaseWith free b).Keeps view :=
  .bind (hv.note _ _ _) fun _ => hf b

theorem liftWith (hv : Apart view) (hf : ∀ b, (free b).Keeps view) (s : Shape) (b : Buffer) :
    (liftWith free s b).Keeps view := by
  refine .bind (viewOf b) fun data => .andFinally ?_ (hv.releaseWith hf b)
  exact .bind .read fun w => .bind (readBytes _ data) fun _ => .pure _

theorem liftMessageWith (hv : Apart view) (hf : ∀ b, (free b).Keeps view) (b : Buffer) :
    (liftMessageWith free b).Keeps view :=
  .andFinally (.bind (viewOf b) fun _ => .pure _) (hv.releaseWith hf b)

/-- Settling a call only reads and releases its error buffer. -/
theorem settleWith (hv : Apart view) (hf : ∀ b, (free b).Keeps view) (errors : Option Shape) (s : CallStatus) :
    (settleWith free errors s).Keeps view := by
  have hr := hv.releaseWith hf s.error
  unfold ForeignBridge.settleWith
  split
  · exact .pure _
  split
  · cases errors with
    | none => exact .bind hr fun _ => .throw _
    | some shape => exact .bind (hv.liftWith hf shape s.error) fun _ => .pure _
  split
  · split
    · exact .bind (hv.liftMessageWith hf s.error) fun _ => .throw _
    · split
      · exact .bind hr fun _ => .throw _
      · exact .throw _
  · exact .throw _

theorem noteFailedCall (hv : Apart view) (name : String) (f : Failure) : (noteFailedCall name f).Keeps view := by
  unfold ForeignBridge.noteFailedCall
  split
  · exact hv.note _ _ _
  · exact hv.note _ _ _
  · exact .pure _

theorem writeOutcome (hv : Apart view) (o : NativeOutcome) : (writeOutcome o).Keeps view := hv.inArena _

theorem freeThrough (hv : Apart view) (space : String) (script : FaultScript) (b : Buffer) :
    (freeThrough space script b).Keeps view := by
  induction script generalizing b with
  | nil => exact hv.inArena _
  | cons o rest ih =>
    have hc : (modify fun w => { w with faults := { w.faults with free := rest } } : Act Unit).Keeps view :=
      .change fun w => hv.faults w _
    cases o with
    | none => exact .bind hc fun _ => hv.inArena _
    | some o =>
      refine .bind hc fun _ => .bind (hv.writeOutcome o) fun s => ?_
      exact .bind (.onFailure (hv.settleWith ih none s) (hv.noteFailedCall _)) fun _ => .pure _

theorem allocatorFree (hv : Apart view) (a : Allocator) (b : Buffer) : (a.free b).Keeps view := by
  unfold Allocator.free
  cases a with
  | direct => exact hv.inArena _
  | library space => exact .bind .read fun w => hv.freeThrough space _ b

theorem settle (hv : Apart view) (a : Allocator) (errors : Option Shape) (s : CallStatus) :
    (a.settle errors s).Keeps view :=
  hv.settleWith (hv.allocatorFree a) errors s

/-- An allocator leaves alone what buffers are no part of. -/
theorem copy (hv : Apart view) (a : Allocator) (data : Bytes) :
    (a.copy data).Keeps view := by
  have hc : (some <$> World.inArena (·.copy data) : Act (Option Buffer)).Keeps view := (hv.inArena _).map some
  unfold Allocator.copy
  cases a with
  | direct => exact hc
  | library space =>
    refine .bind .read fun w => ?_
    unfold Allocator.makeThrough
    split
    · exact hc
    · exact .bind (.change fun w => hv.faults w _) fun _ => hc
    · refine .bind (.change fun w => hv.faults w _) fun _ => .bind (hv.writeOutcome _) fun s => ?_
      exact .bind (.onFailure (hv.settle _ _ s) (hv.noteFailedCall _)) fun _ => .pure _

end Apart

end ForeignBridge
