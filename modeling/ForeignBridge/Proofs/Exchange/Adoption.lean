import ForeignBridge.Exchange.Receive
import ForeignBridge.Proofs.Object.Balance

/-!
What becomes of the references that are read. Those in the value get guards of their own, and those that were dropped on
the way are destroyed; so every clone that is read changes hands, whether the reading came to a value or not.
-/

namespace ForeignBridge

open Act

/-- New guards for pointers that were read. -/
def guardsFor (pointers : List Nat) : List ObjectGuard := pointers.map fun p : Nat => .new p defaultMaxBorrows

/-- An action that gives pointers guards of their own, in some order, and does nothing else. -/
def Act.Guards {α : Type} (x : Act α) (pointers : List Nat) : Prop :=
  ∀ w : World, ∃ (a : α) (order : List Nat), order.Perm pointers ∧
    x w = .ok a { w with guards := w.guards ++ guardsFor order }

namespace Act.Guards

variable {α β : Type} {x : Act α} {f : α → Act β} {pointers more : List Nat}

theorem pure (a : α) : (Pure.pure a : Act α).Guards [] := by
  intro w
  refine ⟨a, [], .refl _, ?_⟩
  rw [guardsFor, List.map_nil, List.append_nil]
  rfl

theorem bind (hx : x.Guards pointers) (hf : ∀ a, (f a).Guards more) : (x >>= f).Guards (pointers ++ more) := by
  intro w
  obtain ⟨a, order, hp, hr⟩ := hx w
  obtain ⟨b, order', hp', hr'⟩ := hf a { w with guards := w.guards ++ guardsFor order }
  refine ⟨b, order ++ order', hp.append hp', (bind_of_ok hr).trans ?_⟩
  rw [hr', guardsFor, guardsFor, guardsFor, List.map_append, List.append_assoc]

theorem map {g : α → β} (hx : x.Guards pointers) : (do return g (← x) : Act β).Guards pointers := by
  have h := hx.bind fun a => pure (g a)
  rwa [List.append_nil] at h

theorem perm (hx : x.Guards pointers) (hp : pointers.Perm more) : x.Guards more := by
  intro w
  obtain ⟨a, order, ho, hr⟩ := hx w
  exact ⟨a, order, ho.trans hp, hr⟩

theorem ofPointer (p : Nat) : (newGuard p defaultMaxBorrows).Guards [p] := fun w => ⟨w.guards.length, [p], .refl _, rfl⟩

end Act.Guards

mutual

/-- A value that is adopted gives every reference in it a guard. -/
theorem Value.adopt_guards : (v : Value) → v.adopt.Guards v.held
  | .received _ pointer => .map (.ofPointer pointer)
  | .list items => .map (adoptAll_guards items)
  | .tuple items => .map (adoptAll_guards items)
  | .dict entries => .map (adoptEntries_guards entries)
  | .record _ _ fields => .map (adoptFields_guards fields)
  | .null | .bool _ | .int _ | .float _ | .text _ | .halved _ | .bytes .. | .moment _ | .date _ | .span _ | .member ..
  | .declared .. | .exception .. | .thing .. | .wrapper .. | .implementation .. => .pure _

theorem adoptAll_guards : (vs : List Value) → (adoptAll vs).Guards (heldFromEnd vs)
  | [] => .pure _
  | v :: rest => .perm (.bind v.adopt_guards fun _ => .map (adoptAll_guards rest)) List.perm_append_comm

theorem adoptEntries_guards : (es : List (Value × Value)) → (adoptEntries es).Guards (heldInEntries es)
  | [] => .pure _
  | (k, v) :: rest => by
    have h := Act.Guards.bind k.adopt_guards fun a =>
      .bind v.adopt_guards fun b => .map (adoptEntries_guards rest) (g := fun es => (a, b) :: es)
    unfold heldInEntries
    rw [List.append_assoc]
    exact h

theorem adoptFields_guards : (fs : List (String × Option Value)) → (adoptFields fs).Guards (heldInFields fs)
  | [] => .pure _
  | (_, some v) :: rest => .bind v.adopt_guards fun _ => .map (adoptFields_guards rest)
  | (_, none) :: rest => .map (adoptFields_guards rest)

end

/-- The pointers of the references that bytes of a shape hold, as far as they are read: those that are dropped and those
that are in the value. -/
def Shape.pointersIn (s : Shape) (data : Bytes) (w : World) : List Int :=
  match s.readAll w.lookup (.ofBytes data) with
  | .ok v r => (r.dropped ++ v.held).map Int.ofNat
  | .error _ r => r.dropped.map Int.ofNat

variable {good : NativeHeap → Prop} {refs : Int → NativeHeap → Int} {t : ObjectType} {w : World} {borrows : List Nat}
  {clones : List Int}

namespace World.Balanced

/-- Clones that are adopted change hands. -/
theorem adopted (h : w.Balanced good refs borrows clones) {α : Type} {x : Act α} {pointers : List Nat}
    (hx : x.Guards pointers) (hclones : (pointers.map Int.ofNat).Subperm clones) :
    (x.after w).Balanced good refs borrows (clones.diff (pointers.map Int.ofNat)) := by
  obtain ⟨a, order, hp, hr⟩ := hx w
  rw [after_of_ok hr]
  have hpointers : (guardsFor order).map ObjectGuard.pointer = order.map Int.ofNat := by
    unfold guardsFor
    rw [List.map_map]
    rfl
  have hnew : ∀ g ∈ guardsFor order, g.borrows.value = 0 ∧ g.destroyed.isSet = false := by
    intro g hg
    obtain ⟨p, -, rfl⟩ := List.mem_map.mp hg
    exact ⟨rfl, rfl⟩
  have hsame : (pointers.map Int.ofNat).Perm ((guardsFor order).map ObjectGuard.pointer) := by
    rw [hpointers]
    exact (hp.map Int.ofNat).symm
  rw [hsame.diff_left]
  exact h.wrapped hnew (hsame.subperm_right.mp hclones) rfl rfl

end World.Balanced

namespace ObjectType

theorem collect_eq (t : ObjectType) (id : Nat) (w : World) : t.collect id w = .ok () ((t.destroy id).after w) := by
  cases hr : t.destroy id w with
  | ok b w' =>
    rw [after_of_ok hr]
    exact attempt_of_ok hr
  | error f w' =>
    rw [after_of_error hr]
    exact attempt_of_error hr

/-- References that are dropped are destroyed at once, and with them the clones they were. -/
theorem collectAll_balanced (ht : t.Counts good refs) (h : w.Balanced good refs borrows clones) (pointers : List Nat)
    (hclones : (pointers.map Int.ofNat).Subperm clones) :
    ∃ w', t.collectAll pointers w = .ok () w' ∧ (∀ m, (t.misused refs m).collectAll pointers w = .ok () w') ∧
      w'.Balanced good refs borrows (clones.diff (pointers.map Int.ofNat)) := by
  induction pointers generalizing w clones with
  | nil => exact ⟨w, rfl, fun _ => rfl, h⟩
  | cons p rest ih =>
    let v : World := { w with guards := w.guards ++ [.new p defaultMaxBorrows] }
    have hv : v.Balanced good refs borrows (clones.erase p) :=
      h.lifted (hclones.subset List.mem_cons_self) rfl rfl
    have hid : w.guards.length < v.guards.length := by
      rw [List.length_append]
      exact Nat.lt_succ_self _
    obtain ⟨hsame, hdestroyed⟩ := destroy_balanced ht hv hid
    have hrest : (rest.map Int.ofNat).Subperm (clones.erase p) := by
      have := hclones.erase (p : Int)
      rwa [List.map_cons, Int.ofNat_eq_natCast, List.erase_cons_head] at this
    obtain ⟨w', hr, hrm, hw'⟩ := ih hdestroyed hrest
    refine ⟨w', ?_, fun m => ?_, ?_⟩
    · exact (bind_of_ok (t.collect_eq w.guards.length v)).trans hr
    · have hcollect := (t.misused refs m).collect_eq w.guards.length v
      rw [after, hsame m, ← after] at hcollect
      exact (bind_of_ok hcollect).trans (hrm m)
    · rw [List.map_cons, List.diff_cons]
      exact hw'

end ObjectType

theorem Shape.receive_balanced (ht : t.Counts good refs) (h : w.Balanced good refs borrows clones) (s : Shape)
    (data : Bytes) (hclones : (s.pointersIn data w).Subperm clones) :
    (∀ m, s.receive (t.misused refs m) data w = s.receive t data w) ∧
      ((s.receive t data).after w).Balanced good refs borrows (clones.diff (s.pointersIn data w)) := by
  cases hx : s.readAll w.lookup (.ofBytes data) with
  | ok v r =>
    have hreceive (u : ObjectType) : s.receive u data w = (do u.collectAll r.dropped; v.adopt : Act Value) w := by
      change receiveWith u (s.readAll w.lookup) data w = _
      rw [receiveWith, hx]
    have hpointers : s.pointersIn data w = r.dropped.map Int.ofNat ++ v.held.map Int.ofNat := by
      rw [pointersIn, hx]
      exact List.map_append
    rw [hpointers] at hclones ⊢
    have hdropped : (r.dropped.map Int.ofNat).Subperm clones := (List.sublist_append_left _ _).subperm.trans hclones
    have hheld : (v.held.map Int.ofNat).Subperm (clones.diff (r.dropped.map Int.ofNat)) := by
      refine List.subperm_ext_iff.mpr fun p _ => ?_
      have := hclones.count_le p
      rw [List.count_append] at this
      rw [List.count_diff]
      omega
    obtain ⟨w', hr, hrm, hw'⟩ := ObjectType.collectAll_balanced ht h r.dropped hdropped
    refine ⟨fun m => ?_, ?_⟩
    · rw [hreceive, hreceive, bind_of_ok hr, bind_of_ok (hrm m)]
    · rw [after, hreceive, bind_of_ok hr, ← after, List.diff_append]
      exact hw'.adopted v.adopt_guards hheld
  | error f r =>
    have hreceive (u : ObjectType) : s.receive u data w = (do u.collectAll r.dropped; throw f : Act Value) w := by
      change receiveWith u (s.readAll w.lookup) data w = _
      rw [receiveWith, hx]
    have hpointers : s.pointersIn data w = r.dropped.map Int.ofNat := by rw [pointersIn, hx]
    rw [hpointers] at hclones ⊢
    obtain ⟨w', hr, hrm, hw'⟩ := ObjectType.collectAll_balanced ht h r.dropped hclones
    refine ⟨fun m => ?_, ?_⟩
    · rw [hreceive, hreceive, bind_of_ok hr, bind_of_ok (hrm m)]
    · rw [after, hreceive, bind_of_ok hr]
      exact hw'

end ForeignBridge
