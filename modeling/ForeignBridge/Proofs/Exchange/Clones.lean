import ForeignBridge.Proofs.Exchange.Handouts
import ForeignBridge.Proofs.Object.Balance

/-!
The clones that sending gives out. A reference is cloned for every object that is written, and with the clones on the
books they balance, whether the write then fails or not.
-/

namespace ForeignBridge

open Act

variable {good : NativeHeap → Prop} {refs : Int → NativeHeap → Int} {w : World} {borrows : List Nat} {clones : List Int}

/-- The types, but for what their functions do with pointers that have no references. -/
def ObjectTypes.misused (types : ObjectTypes) (refs : Int → NativeHeap → Int) (m : Misuse) : ObjectTypes :=
  fun cls => (types cls).map (·.misused refs m)

/-- All types count references. -/
def ObjectTypes.Count (types : ObjectTypes) (good : NativeHeap → Prop) (refs : Int → NativeHeap → Int) : Prop :=
  ∀ cls t, types cls = some t → t.Counts good refs

/-- The pointers of the references that are handed out. -/
def Handout.pointer? : Handout → Option Int
  | reference p => some p
  | entry .. => none

theorem World.Balanced.perm {more : List Int} (h : w.Balanced good refs borrows clones) (hp : clones.Perm more) :
    w.Balanced good refs borrows more := by
  refine ⟨⟨h.owes.good, fun p => ?_⟩, h.tallied⟩
  rw [h.owes.refs, hp.count_eq]

namespace ObjectType

variable {α : Type} {id : Nat} {w' v : World} {p : Int}

theorem borrowing_of_error {f : Failure} (t : ObjectType) (h : t.clonePointer id w = .error f w') (use : Int → Act α) :
    t.borrowing id use w = .error f w' :=
  bind_of_error h

/-- A borrow for something that only looks at the pointer. -/
theorem borrowing_of_ok (t : ObjectType) (h : t.clonePointer id w = .ok p w') (hr : t.releaseBorrow id w' = .ok () v)
    (look : Int → Except Failure α) :
    t.borrowing id (fun p => ofExcept (look p)) w = (ofExcept (look p) : Act α) v := by
  exact (bind_of_ok h).trans (andFinally_of_idle rfl hr)

end ObjectType

/-- A reference behind a value: there is none to be had, or one more clone is out. -/
theorem withReference_balanced {types : ObjectTypes} (ht : types.Count good refs)
    (h : w.Balanced good refs borrows clones) (v : Value) :
    (∃ f, (∀ {α : Type} (use : Int → Act α), withReference types v use w = .error f w ∧
          ∀ m, withReference (types.misused refs m) v use w = .error f w) ∧
        (Piece.object v).handouts types w = [] ∧ ∀ m, (Piece.object v).handouts (types.misused refs m) w = []) ∨
    ∃ p w', w'.Balanced good refs borrows (p :: clones) ∧
      (∀ {α : Type} (look : Int → Except Failure α),
        withReference types v (fun p => ofExcept (look p)) w = (ofExcept (look p) : Act α) w' ∧
        ∀ m, withReference (types.misused refs m) v (fun p => ofExcept (look p)) w = (ofExcept (look p) : Act α) w') ∧
      (Piece.object v).handouts types w = [.reference p] ∧
      ∀ m, (Piece.object v).handouts (types.misused refs m) w = [.reference p] := by
  cases v with
  | wrapper cls id =>
    simp only [withReference, Piece.handouts, ObjectTypes.misused]
    cases htype : types cls with
    | none => exact .inl ⟨_, fun use => ⟨rfl, fun _ => rfl⟩, rfl, fun _ => rfl⟩
    | some t =>
      simp only [Option.map_some]
      obtain ⟨f, hc, hcm⟩ | ⟨g, w', hg, hc, hcm, hw', hr⟩ := ObjectType.clonePointer_balanced (ht cls t htype) h id
      · refine .inl ⟨f, fun use => ⟨t.borrowing_of_error hc use, fun m => ?_⟩, ?_, fun m => ?_⟩
        · exact ObjectType.borrowing_of_error _ (hcm m) use
        · rw [hc]
        · rw [hcm m]
      · have hp : w.guards.getD id default = g := by rw [List.getD_eq_getElem?_getD, hg, Option.getD_some]
        obtain ⟨-, hback⟩ := ObjectType.releaseBorrow_balanced (ht cls t htype) hw' List.mem_cons_self
        rw [after_of_ok (hr t), List.erase_cons_head] at hback
        refine .inr ⟨g.pointer, _, hback, fun look => ⟨t.borrowing_of_ok hc (hr t) look, fun m => ?_⟩, ?_, fun m => ?_⟩
        · exact ObjectType.borrowing_of_ok _ (hcm m) (hr _) look
        · rw [hc, hp]
        · rw [hcm m, hp]
  | _ => exact .inl ⟨_, fun use => ⟨rfl, fun _ => rfl⟩, rfl, fun _ => rfl⟩

theorem handleBytes_eq (i : Int) : handleBytes i = ofExcept (Layout.u64.packInt i) := by
  unfold handleBytes
  cases Layout.u64.packInt i <;> rfl

namespace Piece

variable {types : ObjectTypes}

/-- A piece gives out the clones that it hands out, whatever comes of it. -/
theorem run_balanced (ht : types.Count good refs) (h : w.Balanced good refs borrows clones) (p : Piece) :
    (∀ m, p.run (types.misused refs m) w = p.run types w ∧ p.handouts (types.misused refs m) w = p.handouts types w) ∧
      ((p.run types).after w).Balanced good refs borrows
        ((p.handouts types w).filterMap Handout.pointer? ++ clones) := by
  cases p with
  | raw data => exact ⟨fun m => ⟨rfl, rfl⟩, h⟩
  | object v =>
    have hrun (u : ObjectTypes) : (Piece.object v).run u w = withReference u v handleBytes w := rfl
    unfold after
    simp only [hrun]
    obtain ⟨f, hf, hout, houtm⟩ | ⟨p, w', hw', hlook, hout, houtm⟩ := withReference_balanced ht h v
    · obtain ⟨hr, hrm⟩ := hf handleBytes
      refine ⟨fun m => ⟨(hrm m).trans hr.symm, (houtm m).trans hout.symm⟩, ?_⟩
      rw [hout, hr]
      exact h
    · obtain ⟨hr, hrm⟩ := hlook Layout.u64.packInt
      rw [funext handleBytes_eq]
      refine ⟨fun m => ⟨(hrm m).trans hr.symm, (houtm m).trans hout.symm⟩, ?_⟩
      rw [hout, hr]
      cases Layout.u64.packInt p <;> exact hw'
  | callback registry v =>
    refine ⟨fun m => ⟨rfl, rfl⟩, ?_⟩
    have hrun : ((Piece.callback registry v).run types).after w = (register registry v).after w :=
      after_bind_idle handleBytes_idle w
    rw [hrun]
    obtain ⟨handle, w', hr, hg, hh, -⟩ | ⟨f, w', hr, hg, hh, -⟩ := register_cases registry v w
    · simp only [Piece.handouts, hr, after_of_ok hr]
      exact h.of_eq hh hg
    · simp only [Piece.handouts, hr, after_of_error hr]
      exact h.of_eq hh hg

end Piece

theorem runPieces_balanced {types : ObjectTypes} (ht : types.Count good refs) (pieces : List Piece)
    (h : w.Balanced good refs borrows clones) :
    (∀ m, runPieces (types.misused refs m) pieces w = runPieces types pieces w ∧
        handouts (types.misused refs m) pieces w = handouts types pieces w) ∧
      ((runPieces types pieces).after w).Balanced good refs borrows
        ((handouts types pieces w).filterMap Handout.pointer? ++ clones) := by
  induction pieces generalizing w clones with
  | nil => exact ⟨fun m => ⟨rfl, rfl⟩, h⟩
  | cons p rest ih =>
    obtain ⟨hsame, hp⟩ := p.run_balanced ht h
    cases hr : p.run types w with
    | error f w' =>
      have hrm (m : Misuse) : p.run (types.misused refs m) w = .error f w' := (hsame m).1.trans hr
      have hall (u : ObjectTypes) (hu : p.run u w = .error f w') : runPieces u (p :: rest) w = .error f w' :=
        bind_of_error hu
      refine ⟨fun m => ⟨(hall _ (hrm m)).trans (hall types hr).symm, ?_⟩, ?_⟩
      · simp only [handouts, hrm m, hr, (hsame m).2]
      · rw [after_of_error (hall types hr)]
        simp only [handouts, hr, List.append_nil]
        rwa [after_of_error hr] at hp
    | ok front w' =>
      rw [after_of_ok hr] at hp
      have hrm (m : Misuse) : p.run (types.misused refs m) w = .ok front w' := (hsame m).1.trans hr
      have hall (u : ObjectTypes) (hu : p.run u w = .ok front w') : runPieces u (p :: rest) w =
          (do return front ++ (← runPieces u rest) : Act Bytes) w' := bind_of_ok hu
      obtain ⟨hrest, hw'⟩ := ih hp
      refine ⟨fun m => ⟨?_, ?_⟩, ?_⟩
      · rw [hall _ (hrm m), hall types hr]
        exact bind_of_eq (hrest m).1 _
      · simp only [handouts, hrm m, hr, (hsame m).2, (hrest m).2]
      · have hafter : (runPieces types (p :: rest)).after w = (runPieces types rest).after w' := by
          rw [after, hall types hr, ← after]
          exact after_bind_idle (fun data => .pure _) w'
        rw [hafter]
        simp only [handouts, hr, List.filterMap_append]
        refine hw'.perm ?_
        rw [← List.append_assoc]
        exact List.perm_append_comm.append_right clones

namespace Shape

variable {types : ObjectTypes}

/-- Sending a value gives out the clones that it hands out, whatever comes of it. -/
theorem send_balanced (ht : types.Count good refs) (h : w.Balanced good refs borrows clones) (s : Shape) (v : Value) :
    (∀ m, s.send (types.misused refs m) v w = s.send types v w ∧
        s.handouts (types.misused refs m) v w = s.handouts types v w) ∧
      ((s.send types v).after w).Balanced good refs borrows
        ((s.handouts types v w).filterMap Handout.pointer? ++ clones) := by
  unfold handouts
  cases hc : s.check v with
  | error f =>
    have hr (u : ObjectTypes) : s.send u v w = .error f w := by
      refine bind_of_error ?_
      rw [hc]
      rfl
    refine ⟨fun m => ⟨(hr _).trans (hr types).symm, rfl⟩, ?_⟩
    rw [after_of_error (hr types)]
    exact h
  | ok a =>
    have hr (u : ObjectTypes) : s.send u v w = ((s.write v).run u) w := by
      refine bind_of_ok (a := a) ?_
      rw [hc]
      rfl
    obtain ⟨hsame, hw'⟩ := runPieces_balanced ht (s.write v).pieces h
    refine ⟨fun m => ⟨?_, (hsame m).2⟩, ?_⟩
    · rw [hr, hr]
      exact bind_of_eq (hsame m).1 _
    · rw [after, hr, ← after, Script.run_after]
      exact hw'

/-- Lowering an object gives out one clone, or is refused. -/
theorem lowerIn_balanced (ht : types.Count good refs) (h : w.Balanced good refs borrows clones) (cls : String)
    (v : Value) :
    (∃ f, (Shape.object cls).lowerIn types v w = .error f w ∧
        ∀ m, (Shape.object cls).lowerIn (types.misused refs m) v w = .error f w) ∨
    ∃ p w', (Shape.object cls).lowerIn types v w = .ok (.int p) w' ∧
      (∀ m, (Shape.object cls).lowerIn (types.misused refs m) v w = .ok (.int p) w') ∧
      w'.Balanced good refs borrows (p :: clones) := by
  cases hl : (Shape.object cls).lower v with
  | error f =>
    have hr (u : ObjectTypes) : (Shape.object cls).lowerIn u v w = .error f w := by
      refine bind_of_error ?_
      rw [hl]
      rfl
    exact .inl ⟨f, hr types, fun m => hr _⟩
  | ok a =>
    have hr (u : ObjectTypes) : (Shape.object cls).lowerIn u v w = withReference u v (fun p => return .int p) w := by
      refine bind_of_ok (a := a) ?_
      rw [hl]
      rfl
    simp only [hr]
    obtain ⟨f, hf, -⟩ | ⟨p, w', hw', hlook, -⟩ := withReference_balanced ht h v
    · exact .inl ⟨f, hf _⟩
    · obtain ⟨hp, hpm⟩ := hlook fun p => .ok (Value.int p)
      exact .inr ⟨p, w', hp, hpm, hw'⟩

end Shape

end ForeignBridge
