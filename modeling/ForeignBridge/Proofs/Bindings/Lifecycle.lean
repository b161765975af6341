import ForeignBridge.Bindings.Lifecycle
import ForeignBridge.Proofs.Frame
import Mathlib.Tactic

/-!
What starts, registrations and shutdowns do. A start makes no dispatcher and drops none; a registration makes one, with
a registry of its own, unless there is one of that name; a shutdown clears the registries of all dispatchers that were
registered and forgets them.
-/

namespace ForeignBridge

open Act

/-- The names of the dispatchers' interfaces, with the registries that the dispatchers own. -/
def World.owners (w : World) : List (String × Nat) := w.dispatchers.map fun d => (d.interface.name, d.registry)

theorem getElem?_concat_cases {α : Type} {xs : List α} {x y : α} {n : Nat} (h : (xs ++ [x])[n]? = some y) :
    xs[n]? = some y ∨ n = xs.length ∧ x = y := by
  rcases Nat.lt_or_ge n xs.length with hlt | hge
  · rw [List.getElem?_append_left hlt] at h
    exact .inl h
  · rw [List.getElem?_append_right hge, List.getElem?_singleton] at h
    split_ifs at h with hz
    exact .inr ⟨Nat.le_antisymm (Nat.sub_eq_zero_iff_le.mp hz) hge, Option.some.inj h⟩

variable {γ : Type} {view : World → γ}

/-- A view that the log and the calls of a verification are no part of. -/
structure Aside (view : World → γ) : Prop where
  log : ∀ w l, view { w with log := l } = view w
  calls : ∀ w c, view { w with calls := c } = view w

namespace Aside

theorem note (hv : Aside view) (level : Level) (channel : Channel) (message : String) :
    (World.note level channel message).Keeps view :=
  .change fun w => hv.log w _

theorem read (hv : Aside view) (l : NativeLibrary) (symbol : String) : (l.read symbol).Keeps view := by
  unfold NativeLibrary.read
  cases Value.lookup symbol l.symbols with
  | none => exact .pure _
  | some value => exact .bind (.change fun w => hv.calls w _) fun _ => .pure _

theorem record (hv : Aside view) (r : ContractReport) (strict : Bool) (why : ContractFailure) :
    (r.record strict why).Keeps view := by
  cases strict
  · exact .bind (hv.note _ _ _) fun _ => .pure _
  · exact .bind (hv.note _ _ _) fun _ => .throw _

theorem verifyChecksums (hv : Aside view) (l : NativeLibrary) (strict : Bool) (r : ContractReport)
    (checksums : List (String × Int)) : (verifyChecksums l strict r checksums).Keeps view := by
  induction checksums generalizing r with
  | nil => exact .pure r
  | cons c rest ih =>
    apply Keeps.bind (hv.read l c.1)
    intro found
    cases found with
    | error why => exact .bind (hv.record r strict why) fun r => ih r
    | ok actual =>
      dsimp only
      split_ifs
      · exact .bind (hv.record _ strict _) fun r => ih r
      · exact .bind (.pure _) fun r => ih r

theorem verifyContract (hv : Aside view) (l : NativeLibrary) (m : ContractManifest) (strict : Bool) :
    (verifyContract l m strict).Keeps view := by
  apply Keeps.bind (hv.read l _)
  intro found
  cases found with
  | error why => exact hv.record _ strict why
  | ok version =>
    dsimp only
    split_ifs
    · exact hv.record _ strict _
    · apply Keeps.bind (hv.verifyChecksums l strict _ _)
      intro r
      split_ifs
      · exact .bind (hv.note _ _ _) fun _ => .pure _
      · exact .pure _

theorem verify (hv : Aside view) (b : Bindings) : b.verify.Keeps view := by
  unfold Bindings.verify
  split_ifs
  · cases b.manifest with
    | none => exact .throw _
    | some m => exact .bind (hv.verifyContract b.library m true) fun _ => .pure _
  · exact .bind (hv.note _ _ _) fun _ => .pure _

theorem start (hv : Aside view) (b : Bindings) : b.start.Keeps view := by
  unfold Bindings.start
  split_ifs
  · exact .pure _
  · apply Keeps.bind (hv.note _ _ _)
    intro _
    apply Keeps.bind (.attempt (hv.verify b))
    intro found
    cases found with
    | error f => exact .pure _
    | ok b =>
      dsimp only
      cases b.bindAllocator with
      | error f => exact .pure _
      | ok bound => exact .bind (hv.note _ _ _) fun _ => .pure _

end Aside

namespace Bindings

variable {b b' : Bindings} {w w' : World}

/-- A verification changes nothing but the report. -/
theorem verify_eq (h : b.verify w = .ok b' w') : b' = { b with report := b'.report } := by
  unfold verify at h
  split_ifs at h
  · cases hm : b.manifest with
    | none =>
      rw [hm] at h
      cases h
    | some m =>
      rw [hm] at h
      obtain ⟨report, v, -, hr⟩ := bind_eq_ok h
      cases hr
      rfl
  · obtain ⟨_, v, -, hr⟩ := bind_eq_ok h
    cases hr
    rfl

/-- Binding the allocator changes nothing else. -/
theorem bindAllocator_eq {a : Allocator} (h : b.bindAllocator = .ok (a, b')) : b' = { b with allocator := some a } := by
  unfold bindAllocator at h
  cases hgiven : b.allocator with
  | some given =>
    rw [hgiven] at h
    cases h
    rw [← hgiven]
  | none =>
    rw [hgiven] at h
    dsimp only at h
    split at h
    · cases h
    · cases ha : Allocator.bind _ b.library.bufferExports with
      | error f =>
        rw [ha] at h
        cases h
      | ok bound =>
        rw [ha] at h
        cases h
        rfl

/-- A start of running bindings does nothing. Another one fails in the verification or in binding the allocator, or
both are done. -/
theorem start_cases (b : Bindings) (w : World) :
    b.started = true ∧ b.start w = .ok (.ok (), b) w ∨
    b.started = false ∧ ∃ v,
      ((∃ f w', b.verify v = .error f w' ∧ b.start w = .ok (.error f, b) w') ∨
        ∃ b₁ v', b.verify v = .ok b₁ v' ∧
          ((∃ f, b₁.bindAllocator = .error f ∧ b.start w = .ok (.error f, b₁) v') ∨
            ∃ a b₂ w', b₁.bindAllocator = .ok (a, b₂) ∧ b.start w = .ok (.ok (), { b₂ with started := true }) w')) := by
  unfold start
  cases hs : b.started with
  | true => exact .inl ⟨rfl, rfl⟩
  | false =>
    let shown := b.space.getD "None"
    let v := (World.note .info .runtime s!"Starting FFI runtime for namespace '{shown}'").after w
    have hnote : World.note .info .runtime s!"Starting FFI runtime for namespace '{shown}'" w = .ok () v := rfl
    refine .inr ⟨rfl, v, ?_⟩
    cases hverify : b.verify v with
    | error f w' => exact .inl ⟨f, w', rfl, (bind_of_ok hnote).trans (attempt_of_error hverify)⟩
    | ok b₁ v' =>
      refine .inr ⟨b₁, v', rfl, ?_⟩
      cases hbind : b₁.bindAllocator with
      | error f =>
        refine .inl ⟨f, rfl, (bind_of_ok hnote).trans ((attempt_of_ok hverify).trans ?_)⟩
        dsimp only
        rw [hbind]
        rfl
      | ok bound =>
        obtain ⟨a, b₂⟩ := bound
        refine .inr ⟨a, b₂, (World.note .info .runtime "FFI runtime started").after v', rfl,
          (bind_of_ok hnote).trans ((attempt_of_ok hverify).trans ?_)⟩
        dsimp only
        rw [hbind]
        rfl

/-- A start registers nothing and forgets nothing, whether it fails or not. -/
theorem start_dispatchers {r : Except Failure Unit} (h : b.start w = .ok (r, b') w') :
    b'.dispatchers = b.dispatchers := by
  rcases b.start_cases w with
    ⟨-, hrun⟩ | ⟨-, v, ⟨f, w₁, -, hrun⟩ | ⟨b₁, v', hverify, ⟨f, -, hrun⟩ | ⟨a, b₂, w₁, hbind, hrun⟩⟩⟩
  · cases h.symm.trans hrun
    rfl
  · cases h.symm.trans hrun
    rfl
  · cases h.symm.trans hrun
    rw [verify_eq hverify]
  · cases h.symm.trans hrun
    rw [bindAllocator_eq hbind, verify_eq hverify]

/-- The bindings and the world after something was done with the bindings; where it fails, the bindings stay as they
were. -/
def settled {α : Type} (b : Bindings) (x : Act (α × Bindings)) (w : World) : Bindings × World :=
  match x w with
  | .ok (_, b') w' => (b', w')
  | .error _ w' => (b, w')

theorem settled_of_ok {α : Type} {x : Act (α × Bindings)} {a : α} (h : x w = .ok (a, b') w') :
    b.settled x w = (b', w') := by
  rw [settled, h]

theorem settled_of_error {α : Type} {x : Act (α × Bindings)} {f : Failure} (h : x w = .error f w') :
    b.settled x w = (b, w') := by
  rw [settled, h]

theorem settled_world {α : Type} (b : Bindings) (x : Act (α × Bindings)) (w : World) :
    (b.settled x w).2 = x.after w := by
  unfold settled after
  cases x w <;> rfl

theorem settled_start_dispatchers (b : Bindings) (w : World) :
    (b.settled b.start w).1.dispatchers = b.dispatchers := by
  cases h : b.start w with
  | ok r w' =>
    obtain ⟨a, b'⟩ := r
    rw [settled_of_ok h]
    exact start_dispatchers h
  | error f w' => rw [settled_of_error h]

/-- A registration changes nothing, or it makes a dispatcher of a name that there was none of, with a registry of its
own. -/
theorem register_cases (b : Bindings) (i : CallbackInterface) (w : World) :
    (b.settled (b.register i) w).1.dispatchers = b.dispatchers ∧ (b.settled (b.register i) w).2 = w ∨
    Value.lookup i.name b.dispatchers = none ∧
      (b.settled (b.register i) w).1.dispatchers = b.dispatchers ++ [(i.name, w.owners.length)] ∧
      (b.settled (b.register i) w).2.owners = w.owners ++ [(i.name, w.registries.length)] ∧
      (b.settled (b.register i) w).2.registries = w.registries ++ [.new i.name 1] := by
  cases hs : b.started with
  | false =>
    have h : b.register i w = .error .notRunning w := by
      unfold register
      rw [hs]
      rfl
    rw [settled_of_error h]
    exact .inl ⟨rfl, rfl⟩
  | true =>
    cases hl : Value.lookup i.name b.dispatchers with
    | some id =>
      have h : b.register i w = .ok (id, b) w := by
        unfold register
        rw [hs, hl]
        rfl
      rw [settled_of_ok h]
      exact .inl ⟨rfl, rfl⟩
    | none =>
      cases ha : b.bindAllocator with
      | error f =>
        have h : b.register i w = .error f w := by
          unfold register
          rw [hs, hl, ha]
          rfl
        rw [settled_of_error h]
        exact .inl ⟨rfl, rfl⟩
      | ok bound =>
        obtain ⟨a, b₁⟩ := bound
        have h : ∃ d log, d.interface = i ∧ d.registry = w.registries.length ∧
            b.register i w = .ok (w.dispatchers.length,
              { b₁ with dispatchers := b₁.dispatchers ++ [(i.name, w.dispatchers.length)] })
              { w with registries := w.registries ++ [.new i.name 1], dispatchers := w.dispatchers ++ [d],
                       log := log } := by
          unfold register
          rw [hs, hl, ha]
          exact ⟨_, _, rfl, rfl, rfl⟩
        obtain ⟨d, log, hd, hr, h⟩ := h
        rw [settled_of_ok h]
        have hlen : w.owners.length = w.dispatchers.length := List.length_map _
        refine .inr ⟨rfl, ?_, ?_, rfl⟩
        · dsimp only
          rw [bindAllocator_eq ha, hlen]
        · rw [← hd, ← hr]
          exact List.map_append

end Bindings

end ForeignBridge
