import ForeignBridge.Proofs.Exchange.Adoption
import ForeignBridge.Proofs.Exchange.Clones
import ForeignBridge.Proofs.Object.Callee

/-!
The conservation of native references over whole sessions. In a session wrappers are created, borrowed and destroyed,
methods are called, and references cross the boundary as numbers and in bytes, in any order. Each step keeps the books
balanced, so at any time a pointer has a reference for every wrapper that holds it and for every clone that is out.
-/

namespace ForeignBridge

open Act

variable {good : NativeHeap → Prop} {refs : Int → NativeHeap → Int}

/-- A session with native objects: the world, the borrows that are open, by guard, and the clones that were given out and
have been neither consumed nor lifted, by pointer. -/
structure Session where
  world : World
  borrows : List Nat
  clones : List Int

namespace Session

/-- A wrapper for a new object. -/
def create (a : Allocator) (f : Constructor good refs) (args : List Value) (errors : Option Shape) (maxBorrows : Int)
    (s : Session) : Session :=
  { s with
    world := (do
      let v ← a.call f.fn args errors
      newGuard (v.wholeNumber?.getD 0) maxBorrows : Act Nat).after s.world }

def borrow (t : ObjectType) (id : Nat) (s : Session) : Session :=
  match t.clonePointer id s.world with
  | .ok p w => ⟨w, id :: s.borrows, p :: s.clones⟩
  | .error _ w => { s with world := w }

/-- Gives a borrow back, if it is open. -/
def giveBack (t : ObjectType) (id : Nat) (s : Session) : Session :=
  if id ∈ s.borrows then
    { s with world := (t.releaseBorrow id).after s.world, borrows := s.borrows.erase id }
  else s

/-- Calls a function with clones that are out. -/
def call (a : Allocator) (f : Callee good refs) (args : List Value) (errors : Option Shape) (s : Session) : Session :=
  if (f.takes args).Subperm s.clones then
    let left := s.clones.diff (f.takes args)
    match a.call f.fn args errors s.world with
    | .ok v w => { s with world := w, clones := f.gives v ++ left }
    | .error _ w => { s with world := w, clones := left }
  else s

/-- Calls a method: the object is borrowed for the length of the call, which is given the clone. -/
def method (t : ObjectType) (id : Nat) (f : Callee good refs) (args : List Value) (errors : Option Shape)
    (s : Session) : Session :=
  match t.clonePointer id s.world with
  | .ok p w =>
    let inside : Session := ⟨w, id :: s.borrows, p :: s.clones⟩
    (inside.call t.allocator f (.int p :: args) errors).giveBack t id
  | .error _ w => { s with world := w }

/-- Lowers an object to the pointer of a clone. -/
def lower (types : ObjectTypes) (cls : String) (v : Value) (s : Session) : Session :=
  match (Shape.object cls).lowerIn types v s.world with
  | .ok r w => { s with world := w, clones := r.wholeNumber?.getD 0 :: s.clones }
  | .error _ w => { s with world := w }

/-- Writes a value of any shape; what was cloned for it is out, even if the write failed then. -/
def write (types : ObjectTypes) (shape : Shape) (v : Value) (s : Session) : Session :=
  { s with
    world := (shape.send types v).after s.world
    clones := (shape.handouts types v s.world).filterMap Handout.pointer? ++ s.clones }

/-- Lifts a pointer that was handed over. -/
def lift (cls : String) (v : Value) (s : Session) : Session :=
  if v.wholeNumber?.getD 0 ∈ s.clones then
    { s with
      world := ((Shape.object cls).liftIn v).after s.world
      clones := s.clones.erase (v.wholeNumber?.getD 0) }
  else s

/-- Reads bytes of any shape, if the pointers in them were handed over. -/
def read (t : ObjectType) (shape : Shape) (data : Bytes) (s : Session) : Session :=
  if (shape.pointersIn data s.world).Subperm s.clones then
    { s with
      world := (shape.receive t data).after s.world
      clones := s.clones.diff (shape.pointersIn data s.world) }
  else s

/-- Destroys a wrapper, for the first time or again. -/
def destroy (t : ObjectType) (id : Nat) (s : Session) : Session :=
  if id < s.world.guards.length then { s with world := (t.destroy id).after s.world } else s

end Session

/-- What may be done in a session. Objects are named by their class and the number of their guard. -/
inductive SessionStep (good : NativeHeap → Prop) (refs : Int → NativeHeap → Int)
  | create (cls : String) (f : Constructor good refs) (args : List Value) (errors : Option Shape) (maxBorrows : Int)
  | borrow (cls : String) (id : Nat)
  | giveBack (cls : String) (id : Nat)
  | call (cls : String) (f : Callee good refs) (args : List Value) (errors : Option Shape)
  | method (cls : String) (id : Nat) (f : Callee good refs) (args : List Value) (errors : Option Shape)
  | lower (cls : String) (v : Value)
  | write (shape : Shape) (v : Value)
  | lift (cls : String) (v : Value)
  | read (cls : String) (shape : Shape) (data : Bytes)
  | destroy (cls : String) (id : Nat)

namespace Session

/-- What is done with the type of a class, if there is one. -/
def withType (types : ObjectTypes) (cls : String) (use : ObjectType → Session → Session) (s : Session) : Session :=
  match types cls with
  | some t => use t s
  | none => s

def step (types : ObjectTypes) (s : Session) : SessionStep good refs → Session
  | .create cls f args errors maxBorrows => s.withType types cls fun t => create t.allocator f args errors maxBorrows
  | .borrow cls id => s.withType types cls fun t => borrow t id
  | .giveBack cls id => s.withType types cls fun t => giveBack t id
  | .call cls f args errors => s.withType types cls fun t => call t.allocator f args errors
  | .method cls id f args errors => s.withType types cls fun t => method t id f args errors
  | .lower cls v => s.lower types cls v
  | .write shape v => s.write types shape v
  | .lift cls v => s.lift cls v
  | .read cls shape data => s.withType types cls fun t => read t shape data
  | .destroy cls id => s.withType types cls fun t => destroy t id

def run (types : ObjectTypes) (s : Session) (steps : List (SessionStep good refs)) : Session :=
  steps.foldl (step types) s

variable {s : Session} {t : ObjectType} {types : ObjectTypes}

/-- The books of a session balance. -/
def Balanced (good : NativeHeap → Prop) (refs : Int → NativeHeap → Int) (s : Session) : Prop :=
  s.world.Balanced good refs s.borrows s.clones

/-- Where two sessions are the same as a third one with balanced books, they are the same and the books balance. -/
theorem Balanced.both {u : Session} {misused : Misuse → Session} (hs : s.Balanced good refs) (hu : u = s)
    (hm : ∀ m, misused m = s) : (∀ m, misused m = u) ∧ u.Balanced good refs :=
  ⟨fun m => (hm m).trans hu.symm, hu ▸ hs⟩

theorem borrow_balanced (ht : t.Counts good refs) (h : s.Balanced good refs) (id : Nat) :
    (∀ m, s.borrow (t.misused refs m) id = s.borrow t id) ∧ (s.borrow t id).Balanced good refs := by
  unfold borrow
  obtain ⟨f, hr, hrm⟩ | ⟨g, w', -, hr, hrm, hw', -⟩ := ObjectType.clonePointer_balanced ht h id
  · exact h.both (by rw [hr]) fun m => by rw [hrm m]
  · have hborrowed : (Session.mk w' (id :: s.borrows) (g.pointer :: s.clones)).Balanced good refs := hw'
    exact hborrowed.both (by rw [hr]) fun m => by rw [hrm m]

theorem giveBack_balanced (ht : t.Counts good refs) (h : s.Balanced good refs) (id : Nat) :
    (∀ m, s.giveBack (t.misused refs m) id = s.giveBack t id) ∧ (s.giveBack t id).Balanced good refs := by
  unfold giveBack
  split_ifs with hid
  · obtain ⟨hsame, hw'⟩ := ObjectType.releaseBorrow_balanced ht h hid
    refine ⟨fun m => ?_, hw'⟩
    rw [after, hsame m, ← after]
  · exact ⟨fun _ => rfl, h⟩

theorem call_balanced (h : s.Balanced good refs) (a : Allocator) (f : Callee good refs) (args : List Value)
    (errors : Option Shape) : (s.call a f args errors).Balanced good refs := by
  unfold call
  split_ifs with hclones
  · have hcalled := f.call_balanced h hclones a errors
    cases hr : a.call f.fn args errors s.world with
    | ok v w' =>
      rw [after_of_ok hr, Callee.givenWith_of_ok hr] at hcalled
      exact hcalled
    | error e w' =>
      rw [after_of_error hr, Callee.givenWith_of_error hr] at hcalled
      exact hcalled
  · exact h

theorem create_balanced (h : s.Balanced good refs) (a : Allocator) (f : Constructor good refs) (args : List Value)
    (errors : Option Shape) (maxBorrows : Int) : (s.create a f args errors maxBorrows).Balanced good refs := by
  have hnone : f.takes args = [] := f.takes_nothing args
  have hcalled := f.call_balanced h (hnone ▸ List.nil_subperm) a errors
  rw [hnone, List.diff_nil] at hcalled
  unfold create Balanced
  cases hr : a.call f.fn args errors s.world with
  | ok v w' =>
    obtain ⟨status, hrun, hs⟩ := Allocator.call_eq_ok hr
    obtain ⟨p, rfl, -⟩ := f.starts args s.world v status w' h.owes.good hrun hs
    rw [after_of_ok hr, Callee.givenWith_of_ok hr, f.gives_pointer, List.singleton_append] at hcalled
    let v : World := { w' with guards := w'.guards ++ [.new p maxBorrows] }
    have hv : v.Balanced good refs s.borrows ((p :: s.clones).erase p) := hcalled.lifted List.mem_cons_self rfl rfl
    rw [List.erase_cons_head] at hv
    have hnew : newGuard p maxBorrows w' = .ok w'.guards.length v := rfl
    rw [after_of_ok ((bind_of_ok hr).trans hnew)]
    exact hv
  | error e w' =>
    rw [after_of_error hr, Callee.givenWith_of_error hr] at hcalled
    rw [after_of_error (bind_of_error hr)]
    exact hcalled

theorem method_balanced (ht : t.Counts good refs) (h : s.Balanced good refs) (id : Nat) (f : Callee good refs)
    (args : List Value) (errors : Option Shape) :
    (∀ m, s.method (t.misused refs m) id f args errors = s.method t id f args errors) ∧
      (s.method t id f args errors).Balanced good refs := by
  unfold method
  obtain ⟨f', hr, hrm⟩ | ⟨g, w', -, hr, hrm, hw', -⟩ := ObjectType.clonePointer_balanced ht h id
  · exact h.both (by rw [hr]) fun m => by rw [hrm m]
  · let inside : Session := ⟨w', id :: s.borrows, g.pointer :: s.clones⟩
    have hinside : inside.Balanced good refs := hw'
    have hcalled := call_balanced hinside t.allocator f (.int g.pointer :: args) errors
    obtain ⟨hsame, hback⟩ := giveBack_balanced ht hcalled id
    refine ⟨fun m => ?_, ?_⟩
    · rw [hr, hrm m]
      exact hsame m
    · rw [hr]
      exact hback

theorem lower_balanced (ht : types.Count good refs) (h : s.Balanced good refs) (cls : String) (v : Value) :
    (∀ m, s.lower (types.misused refs m) cls v = s.lower types cls v) ∧ (s.lower types cls v).Balanced good refs := by
  unfold lower
  obtain ⟨f, hr, hrm⟩ | ⟨p, w', hr, hrm, hw'⟩ := Shape.lowerIn_balanced ht h cls v
  · exact h.both (by rw [hr]) fun m => by rw [hrm m]
  · have hlowered : (Session.mk w' s.borrows (p :: s.clones)).Balanced good refs := hw'
    exact hlowered.both (by rw [hr]; rfl) fun m => by rw [hrm m]; rfl

theorem write_balanced (ht : types.Count good refs) (h : s.Balanced good refs) (shape : Shape) (v : Value) :
    (∀ m, s.write (types.misused refs m) shape v = s.write types shape v) ∧
      (s.write types shape v).Balanced good refs := by
  obtain ⟨hsame, hw'⟩ := shape.send_balanced ht h v
  refine ⟨fun m => ?_, hw'⟩
  unfold write
  rw [(hsame m).2, after, (hsame m).1, ← after]

theorem lift_balanced (h : s.Balanced good refs) (cls : String) (v : Value) : (s.lift cls v).Balanced good refs := by
  unfold lift
  split_ifs with hp
  · exact World.Balanced.lifted h hp rfl rfl
  · exact h

theorem read_balanced (ht : t.Counts good refs) (h : s.Balanced good refs) (shape : Shape) (data : Bytes) :
    (∀ m, s.read (t.misused refs m) shape data = s.read t shape data) ∧ (s.read t shape data).Balanced good refs := by
  unfold read
  split_ifs with hp
  · obtain ⟨hsame, hw'⟩ := shape.receive_balanced ht h data hp
    refine ⟨fun m => ?_, hw'⟩
    rw [after, hsame m, ← after]
  · exact ⟨fun _ => rfl, h⟩

theorem destroy_balanced (ht : t.Counts good refs) (h : s.Balanced good refs) (id : Nat) :
    (∀ m, s.destroy (t.misused refs m) id = s.destroy t id) ∧ (s.destroy t id).Balanced good refs := by
  unfold destroy
  split_ifs with hid
  · obtain ⟨hsame, hw'⟩ := ObjectType.destroy_balanced ht h hid
    refine ⟨fun m => ?_, hw'⟩
    rw [after, hsame m, ← after]
  · exact ⟨fun _ => rfl, h⟩

/-- What is done with a type is done with it if there is one. -/
theorem withType_balanced (ht : types.Count good refs) (h : s.Balanced good refs) (cls : String)
    {use : ObjectType → Session → Session}
    (huse : ∀ t : ObjectType, t.Counts good refs →
      (∀ m, use (t.misused refs m) s = use t s) ∧ (use t s).Balanced good refs) :
    (∀ m, s.withType (types.misused refs m) cls use = s.withType types cls use) ∧
      (s.withType types cls use).Balanced good refs := by
  unfold withType ObjectTypes.misused
  cases htype : types cls with
  | none => exact ⟨fun _ => rfl, h⟩
  | some t => exact huse t (ht cls t htype)

/-- Every step keeps the books balanced, and calls clone and free with counted pointers only. -/
theorem step_balanced (ht : types.Count good refs) (h : s.Balanced good refs) (step : SessionStep good refs) :
    (∀ m, s.step (types.misused refs m) step = s.step types step) ∧ (s.step types step).Balanced good refs := by
  cases step with
  | create cls f args errors maxBorrows =>
    exact withType_balanced ht h cls fun t _ => ⟨fun _ => rfl, create_balanced h t.allocator f args errors maxBorrows⟩
  | borrow cls id => exact withType_balanced ht h cls fun t ht => borrow_balanced ht h id
  | giveBack cls id => exact withType_balanced ht h cls fun t ht => giveBack_balanced ht h id
  | call cls f args errors =>
    exact withType_balanced ht h cls fun t _ => ⟨fun _ => rfl, call_balanced h t.allocator f args errors⟩
  | method cls id f args errors => exact withType_balanced ht h cls fun t ht => method_balanced ht h id f args errors
  | lower cls v => exact lower_balanced ht h cls v
  | write shape v => exact write_balanced ht h shape v
  | lift cls v => exact ⟨fun _ => rfl, lift_balanced h cls v⟩
  | read cls shape data => exact withType_balanced ht h cls fun t ht => read_balanced ht h shape data
  | destroy cls id => exact withType_balanced ht h cls fun t ht => destroy_balanced ht h id

theorem run_balanced (ht : types.Count good refs) (h : s.Balanced good refs) (steps : List (SessionStep good refs)) :
    (∀ m, s.run (types.misused refs m) steps = s.run types steps) ∧ (s.run types steps).Balanced good refs := by
  induction steps generalizing s with
  | nil => exact ⟨fun _ => rfl, h⟩
  | cons first rest ih =>
    obtain ⟨hsame, hstep⟩ := step_balanced ht h first
    obtain ⟨hrest, hrun⟩ := ih hstep
    refine ⟨fun m => ?_, hrun⟩
    rw [run, run, List.foldl_cons, List.foldl_cons, hsame m]
    exact hrest m

/-- A borrow that is open while other things are done is what borrowing for their length comes to. -/
theorem borrowing_world {α : Type} {id : Nat} {p : Int} {w : World} {use : Int → Act α} {body : Session → Session}
    (hc : t.clonePointer id s.world = .ok p w) (hbody : (body (s.borrow t id)).world = (use p).after w)
    (hopen : id ∈ (body (s.borrow t id)).borrows) :
    ((body (s.borrow t id)).giveBack t id).world = (t.borrowing id use).after s.world := by
  have hafter : (t.borrowing id use).after s.world = (t.releaseBorrow id).after ((use p).after w) := by
    rw [after, ObjectType.borrowing, bind_of_ok hc, ← after, after_andFinally]
  rw [hafter, giveBack, if_pos hopen, hbody]

/-- A method is called by borrowing the object for the length of the call. -/
theorem method_world {id : Nat} {p : Int} {w : World} {f : Callee good refs} {args : List Value} (errors : Option Shape)
    (hc : t.clonePointer id s.world = .ok p w) (hclones : (f.takes (.int p :: args)).Subperm (p :: s.clones)) :
    (s.method t id f args errors).world =
      (t.borrowing id fun p => t.allocator.call f.fn (.int p :: args) errors).after s.world := by
  have hborrow : s.borrow t id = ⟨w, id :: s.borrows, p :: s.clones⟩ := by rw [borrow, hc]
  have hmethod : s.method t id f args errors =
      ((s.borrow t id).call t.allocator f (.int p :: args) errors).giveBack t id := by rw [method, hc, hborrow]
  rw [hmethod]
  apply borrowing_world hc
  · rw [hborrow, call, if_pos hclones]
    unfold after
    cases t.allocator.call f.fn (.int p :: args) errors w <;> rfl
  · rw [hborrow, call, if_pos hclones]
    cases t.allocator.call f.fn (.int p :: args) errors w <;> exact List.mem_cons_self

/-- Native references are conserved. Over every session, whatever is done in it and in whatever order, a pointer has one
reference for every wrapper that holds it and has not released it, and one for every clone that was given out and
neither consumed nor lifted; whatever clone and free would do with a pointer that has no references, the session is the
same, as they are never called with one; and when all wrappers are released and all clones are gone, so are all
references. -/
theorem conservation {w : World} (ht : types.Count good refs) (hgood : good w.heap) (hrefs : ∀ p, refs p w.heap = 0)
    (hguards : w.guards = []) (steps : List (SessionStep good refs)) :
    let s := (Session.mk w [] []).run types steps
    (∀ p, refs p s.world.heap = unreleased p s.world.guards + s.clones.count p) ∧
      (∀ m, (Session.mk w [] []).run (types.misused refs m) steps = s) ∧
      ((∀ g ∈ s.world.guards, g.released) → s.clones = [] → ∀ p, refs p s.world.heap = 0) := by
  intro s
  have hstart : (Session.mk w [] []).Balanced good refs := by
    refine ⟨⟨hgood, fun p => ?_⟩, ⟨fun id g hg => ?_, nofun⟩⟩
    · rw [hrefs p, hguards]
      rfl
    · rw [hguards] at hg
      cases hg
  obtain ⟨hsame, hbalanced⟩ := run_balanced ht hstart steps
  refine ⟨hbalanced.owes.refs, hsame, fun hreleased hclones p => ?_⟩
  have hnone : unreleased p s.world.guards = 0 := by
    refine List.countP_eq_zero.mpr fun g hg => ?_
    simp [hreleased g hg]
  rw [hbalanced.owes.refs p]
  change ((unreleased p s.world.guards : Int) + s.clones.count p) = 0
  rw [hnone, hclones]
  rfl

/-- A wallet that is destroyed while it is borrowed, and lives on in two others. -/
def visit : List (SessionStep NativeHeap.Unscripted NativeHeap.countOf) :=
  [.create "Wallet" mint [.int 7] none 5, .borrow "Wallet" 0, .destroy "Wallet" 0,
    .lower "Wallet" (.wrapper "Wallet" 0), .lift "Wallet" (.int 7),
    .write (.sequence (.object "Wallet")) (.list [.wrapper "Wallet" 1]),
    .read "Wallet" (.sequence (.object "Wallet")) [0, 0, 0, 1, 0, 0, 0, 0, 0, 0, 0, 7],
    .method "Wallet" 1 spend [] none, .call "Wallet" spend [.int 7] none, .giveBack "Wallet" 0,
    .destroy "Wallet" 1, .destroy "Wallet" 1, .destroy "Wallet" 2]

theorem conservation_visit :
    Shape.wallets.Count NativeHeap.Unscripted NativeHeap.countOf ∧ (World.new []).heap.Unscripted ∧
      let s := (Session.mk (World.new []) [] []).run Shape.wallets visit
      s.world.guards.length = 3 ∧ (∀ g ∈ s.world.guards, g.released) ∧ s.clones = [] ∧
        ∀ p, s.world.heap.countOf p = 0 := by
  have ht : Shape.wallets.Count NativeHeap.Unscripted NativeHeap.countOf := by
    intro cls t h
    unfold Shape.wallets at h
    split at h
    · cases h
      exact counting_counts _ _
    · cases h
  have hgood : (World.new []).heap.Unscripted := ⟨rfl, rfl⟩
  obtain ⟨-, -, hgone⟩ := conservation ht hgood (fun _ => rfl) rfl visit
  have hreleased : ∀ g ∈ ((Session.mk (World.new []) [] []).run Shape.wallets visit).world.guards, g.released := by
    decide
  exact ⟨ht, hgood, rfl, hreleased, rfl, hgone hreleased rfl⟩

end Session

end ForeignBridge
