import ForeignBridge.Exchange.Send
import ForeignBridge.Proofs.Object.References

/-!
What sending hands out. A write takes references to objects and registers implementations as it goes along, and
when it fails nothing of that is undone. So a failed sending is without effect just if nothing had been handed
out by then.
-/

namespace ForeignBridge

open Act

/-- What is handed out with a handle: a reference to an object, or an entry for an implementation. -/
inductive Handout
  | reference (pointer : Int)
  | entry (registry : Nat) (value : Value)

namespace Handout

def isReferenceTo (pointer : Int) : Handout → Bool
  | reference p => p == pointer
  | entry .. => false

/-- The implementation that is entered in a registry. -/
def enteredIn? (registry : Nat) : Handout → Option Value
  | reference _ => none
  | entry r v => if r = registry then some v else none

end Handout

/-- The entries of a registry. -/
def World.entriesIn (w : World) (registry : Nat) : List (Int × Value) :=
  match w.registries[registry]? with
  | some table => table.entries
  | none => []

/-- What a piece hands out, whether its number can then be written or not. -/
def Piece.handouts (types : ObjectTypes) (w : World) : Piece → List Handout
  | .raw _ => []
  | .object (.wrapper cls id) =>
    match types cls with
    | some t =>
      match t.clonePointer id w with
      | .ok .. => [.reference (w.guards.getD id default).pointer]
      | .error .. => []
    | none => []
  | .object _ => []
  | .callback registry v =>
    match register registry v w with
    | .ok .. => [.entry registry v]
    | .error .. => []

/-- What pieces hand out, up to the first one that fails. -/
def handouts (types : ObjectTypes) : List Piece → World → List Handout
  | [], _ => []
  | p :: rest, w =>
    p.handouts types w ++
      match p.run types w with
      | .ok _ w' => handouts types rest w'
      | .error .. => []

/-- What sending a value hands out: nothing if the value does not pass the check. -/
def Shape.handouts (types : ObjectTypes) (s : Shape) (v : Value) (w : World) : List Handout :=
  match s.check v with
  | .ok _ => ForeignBridge.handouts types (s.write v).pieces w
  | .error _ => []

def Piece.isHandle : Piece → Bool
  | .raw _ => false
  | _ => true

/-- The first object or implementation that is on its way when a value is sent. -/
def Shape.firstHandle? (s : Shape) (v : Value) : Option Piece :=
  match s.check v with
  | .ok _ => (s.write v).pieces.find? Piece.isHandle
  | .error _ => none

theorem World.entriesIn_of_eq {w w' : World} (h : w'.registries = w.registries) (r : Nat) :
    w'.entriesIn r = w.entriesIn r := by
  rw [entriesIn, entriesIn, h]

variable {good : NativeHeap → Prop} {refs : Int → NativeHeap → Int}

/-- From one world to another nothing has changed but what was handed out, and no borrow is left. -/
structure World.HandsOut (w : World) (good : NativeHeap → Prop) (refs : Int → NativeHeap → Int) (done : List Handout)
    (w' : World) : Prop where
  good : good w'.heap
  guards : w'.guards = w.guards
  entries : ∀ r, ∃ new, w'.entriesIn r = w.entriesIn r ++ new ∧ new.map Prod.snd = done.filterMap (·.enteredIn? r)
  refs : ∀ p, refs p w'.heap = refs p w.heap + done.countP (·.isReferenceTo p)

namespace World.HandsOut

variable {w w₁ w₂ : World} {done more : List Handout}

/-- Moves of the heap that neither take nor give references do not count. -/
theorem unmoved (hw : good w₁.heap) (hg : w₁.guards = w.guards) (he : ∀ r, w₁.entriesIn r = w.entriesIn r)
    (hq : ∀ q, refs q w₁.heap = refs q w.heap) : w.HandsOut good refs [] w₁ :=
  ⟨hw, hg, fun r => ⟨[], by rw [he, List.append_nil], rfl⟩, fun q => by simpa using hq q⟩

theorem nothing (h : good w.heap) : w.HandsOut good refs [] w := unmoved h rfl (fun _ => rfl) fun _ => rfl

theorem of_eq (h : w.HandsOut good refs done w₁) (hg : w₂.guards = w₁.guards)
    (hr : w₂.registries = w₁.registries) (hh : w₂.heap = w₁.heap) : w.HandsOut good refs done w₂ := by
  refine ⟨hh ▸ h.good, hg.trans h.guards, fun r => ?_, fun p => ?_⟩
  · rw [World.entriesIn_of_eq hr]
    exact h.entries r
  · rw [hh, h.refs]

theorem trans (h : w.HandsOut good refs done w₁) (h' : w₁.HandsOut good refs more w₂) :
    w.HandsOut good refs (done ++ more) w₂ := by
  refine ⟨h'.good, h'.guards.trans h.guards, fun r => ?_, fun p => ?_⟩
  · obtain ⟨new, he, hn⟩ := h.entries r
    obtain ⟨new', he', hn'⟩ := h'.entries r
    refine ⟨new ++ new', ?_, ?_⟩
    · rw [he', he, List.append_assoc]
    · rw [List.map_append, hn, hn', List.filterMap_append]
  · rw [h'.refs, h.refs, List.countP_append]
    push_cast
    ring

/-- Nothing has changed just if nothing was handed out. -/
theorem unchanged_iff (h : w.HandsOut good refs done w₁) :
    ((∀ r, w₁.entriesIn r = w.entriesIn r) ∧ ∀ p, refs p w₁.heap = refs p w.heap) ↔ done = [] := by
  constructor
  · intro ⟨he, hr⟩
    cases done with
    | nil => rfl
    | cons a rest =>
      cases a with
      | reference p =>
        have hp := h.refs p
        rw [hr p, List.countP_cons_of_pos (by simp [Handout.isReferenceTo])] at hp
        push_cast at hp
        omega
      | entry r v =>
        obtain ⟨new, hnew, hmap⟩ := h.entries r
        rw [he r] at hnew
        rw [List.self_eq_append_right.mp hnew] at hmap
        simp [Handout.enteredIn?] at hmap
  · rintro rfl
    refine ⟨fun r => ?_, fun p => by simpa using h.refs p⟩
    obtain ⟨new, he, hn⟩ := h.entries r
    rw [he, List.map_eq_nil_iff.mp hn, List.append_nil]

end World.HandsOut

theorem handleBytes_idle (i : Int) : (handleBytes i).Keeps id := by
  unfold handleBytes
  cases Layout.u64.packInt i with
  | ok data => exact .pure data
  | error f => exact .throw f

theorem World.entriesIn_set {w : World} {registry : Nat} {table after : HandleTable Value}
    (h : w.registries[registry]? = some table) (r : Nat) :
    { w with registries := w.registries.set registry after }.entriesIn r =
      if registry = r then after.entries else w.entriesIn r := by
  have hl : registry < w.registries.length := (List.getElem?_eq_some_iff.mp h).1
  unfold entriesIn
  by_cases hr : registry = r
  · subst hr
    simp [List.getElem?_set_self hl]
  · simp [List.getElem?_set_ne hr, hr]

/-- A registration that succeeds adds its entry, and nothing else happens. -/
theorem register_cases (registry : Nat) (v : Value) (w : World) :
    (∃ handle w', register registry v w = .ok handle w' ∧ w'.guards = w.guards ∧ w'.heap = w.heap ∧
      ∀ r, w'.entriesIn r = w.entriesIn r ++ if registry = r then [(handle, v)] else []) ∨
    ∃ f w', register registry v w = .error f w' ∧ w'.guards = w.guards ∧ w'.heap = w.heap ∧
      ∀ r, w'.entriesIn r = w.entriesIn r := by
  unfold register
  cases ht : w.registries[registry]? with
  | none => exact .inr ⟨_, w, rfl, rfl, rfl, fun _ => rfl⟩
  | some table =>
    have he : w.entriesIn registry = table.entries := by rw [World.entriesIn, ht]
    dsimp only
    unfold HandleTable.insert
    split_ifs
    · refine .inr ⟨_, _, rfl, rfl, rfl, fun r => ?_⟩
      rw [World.entriesIn_set ht]
      split_ifs with hr
      · rw [← hr, he]
      · rfl
    · refine .inl ⟨_, _, rfl, rfl, rfl, fun r => ?_⟩
      rw [World.entriesIn_set ht]
      split_ifs with hr
      · rw [← hr, he]
      · rw [List.append_nil]

namespace World.HandsOut

variable {w w' : World}

theorem entry {registry : Nat} {handle : Int} {v : Value} (hw : good w.heap) (hg : w'.guards = w.guards)
    (hh : w'.heap = w.heap)
    (he : ∀ r, w'.entriesIn r = w.entriesIn r ++ if registry = r then [(handle, v)] else []) :
    w.HandsOut good refs [.entry registry v] w' := by
  refine ⟨hh ▸ hw, hg, fun r => ⟨_, he r, ?_⟩, fun p => ?_⟩
  · by_cases hr : registry = r <;> simp [Handout.enteredIn?, hr]
  · simp [hh, Handout.isReferenceTo]

theorem reference {p : Int} (hw : good w'.heap) (hg : w'.guards = w.guards) (hr : w'.registries = w.registries)
    (hq : ∀ q, refs q w'.heap = refs q w.heap + if p = q then 1 else 0) :
    w.HandsOut good refs [.reference p] w' := by
  refine ⟨hw, hg, fun r => ⟨[], ?_, rfl⟩, fun q => ?_⟩
  · rw [World.entriesIn_of_eq hr, List.append_nil]
  · rw [hq]
    by_cases h : p = q <;> simp [Handout.isReferenceTo, h]

end World.HandsOut

namespace ObjectType

variable {t : ObjectType} {w : World}

/-- A borrow for writing a pointer leaves the guard as it was, and a reference behind if there was one to be had. -/
theorem borrowing_handsOut (ht : t.Retains good refs) (hw : good w.heap) (id : Nat) :
    (∃ p w', t.clonePointer id w = .ok p w' ∧
      w.HandsOut good refs [.reference (w.guards.getD id default).pointer] ((t.borrowing id handleBytes).after w)) ∨
    ∃ f w', t.clonePointer id w = .error f w' ∧
      w.HandsOut good refs [] ((t.borrowing id handleBytes).after w) := by
  obtain ⟨g, p, w', hg, hc, hgood, hb, hguards, hregistries, hq⟩ | ⟨f, w', hc, hgood, hguards, hregistries, hq⟩ :=
    t.clonePointer_retains ht hw id
  · have hp : w.guards.getD id default = g := by rw [List.getD_eq_getElem?_getD, hg, Option.getD_some]
    have hidle : (handleBytes p).after w' = w' := handleBytes_idle p w'
    have ha : (t.borrowing id handleBytes).after w = { w' with guards := w.guards } := by
      rw [after, borrowing, bind_of_ok hc, ← after, after_andFinally, hidle]
      exact after_of_ok (t.releaseBorrow_borrowed hg hb hguards)
    refine .inl ⟨p, w', hc, ?_⟩
    rw [ha, hp]
    exact .reference hgood rfl hregistries hq
  · have ha : (t.borrowing id handleBytes).after w = w' := after_of_error (bind_of_error hc)
    refine .inr ⟨f, w', hc, ?_⟩
    rw [ha]
    exact .unmoved hgood hguards (World.entriesIn_of_eq hregistries) hq

end ObjectType

namespace Piece

variable {types : ObjectTypes} {w : World}

/-- A piece hands out what it does, whether it then fails or not. -/
theorem run_handsOut (ht : ∀ cls t, types cls = some t → t.Retains good refs) (hw : good w.heap) (p : Piece) :
    w.HandsOut good refs (p.handouts types w) ((p.run types).after w) := by
  cases p with
  | raw data => exact .nothing hw
  | object v =>
    cases v with
    | wrapper cls id =>
      simp only [Piece.handouts, Piece.run, withReference]
      cases htype : types cls with
      | none => exact .nothing hw
      | some t =>
        dsimp only
        obtain ⟨p, w', hc, hout⟩ | ⟨f, w', hc, hout⟩ := ObjectType.borrowing_handsOut (ht cls t htype) hw id
        · rw [hc]
          exact hout
        · rw [hc]
          exact hout
    | _ => exact .nothing hw
  | callback registry v =>
    simp only [Piece.handouts]
    have hrun : ((Piece.callback registry v).run types).after w = (register registry v).after w :=
      after_bind_idle handleBytes_idle w
    obtain ⟨handle, w', hr, hg, hh, he⟩ | ⟨f, w', hr, hg, hh, he⟩ := register_cases registry v w
    · rw [hr, hrun, after_of_ok hr]
      exact .entry hw hg hh he
    · rw [hr, hrun, after_of_error hr]
      exact .unmoved (hh ▸ hw) hg he fun q => by rw [hh]

/-- A piece with a handle that hands out nothing is refused. -/
theorem run_of_refused {p : Piece} (hp : p.isHandle)
    (h : p.handouts types w = []) : ∃ f w', p.run types w = .error f w' := by
  cases p with
  | raw data => cases hp
  | object v =>
    cases v with
    | wrapper cls id =>
      simp only [Piece.handouts] at h
      simp only [Piece.run, withReference]
      cases htype : types cls with
      | none => exact ⟨_, w, rfl⟩
      | some t =>
        rw [htype] at h
        dsimp only at h ⊢
        cases hc : t.clonePointer id w with
        | ok p w' =>
          rw [hc] at h
          cases h
        | error f w' => exact ⟨f, w', bind_of_error hc⟩
    | _ => exact ⟨_, w, rfl⟩
  | callback registry v =>
    simp only [Piece.handouts] at h
    cases hr : register registry v w with
    | ok handle w' =>
      rw [hr] at h
      cases h
    | error f w' => exact ⟨f, w', bind_of_error hr⟩

end Piece

/-- Pieces hand out nothing just if the first object or implementation among them is refused. -/
theorem handouts_eq_nil_iff (types : ObjectTypes) (pieces : List Piece) (w : World) :
    handouts types pieces w = [] ↔ ∀ p ∈ pieces.find? Piece.isHandle, p.handouts types w = [] := by
  induction pieces with
  | nil => simp [handouts]
  | cons p rest ih =>
    cases hp : p.isHandle with
    | false =>
      cases p with
      | raw data =>
        rw [List.find?_cons_of_neg (by simp [hp])]
        exact ih
      | _ => cases hp
    | true =>
      rw [List.find?_cons_of_pos hp]
      simp only [handouts, List.append_eq_nil_iff, Option.mem_some_iff, forall_eq']
      refine ⟨And.left, fun h => ⟨h, ?_⟩⟩
      obtain ⟨f, w', hr⟩ := Piece.run_of_refused hp h
      rw [hr]

/-- What pieces hand out stays handed out when one of them fails. -/
theorem runPieces_handsOut {types : ObjectTypes} (ht : ∀ cls t, types cls = some t → t.Retains good refs)
    (pieces : List Piece) {w : World} (hw : good w.heap) :
    w.HandsOut good refs (handouts types pieces w) ((runPieces types pieces).after w) := by
  induction pieces generalizing w with
  | nil => exact .nothing hw
  | cons p rest ih =>
    have hp := p.run_handsOut ht hw
    unfold handouts
    cases hr : p.run types w with
    | error f w' =>
      rw [after_of_error hr] at hp
      have ha : (runPieces types (p :: rest)).after w = w' := after_of_error (bind_of_error hr)
      rw [ha, List.append_nil]
      exact hp
    | ok front w' =>
      rw [after_of_ok hr] at hp
      have ha : (runPieces types (p :: rest)).after w = (runPieces types rest).after w' := by
        rw [after, runPieces, bind_of_ok hr, ← after]
        exact after_bind_idle (fun data => .pure _) w'
      rw [ha]
      exact hp.trans (ih hp.good)

/-- The failure that ends a script has no effect of its own. -/
theorem Script.run_after (types : ObjectTypes) (s : Script) (w : World) :
    (s.run types).after w = (runPieces types s.pieces).after w := by
  apply after_bind_idle
  intro data
  cases s.failure with
  | none => exact .pure data
  | some f => exact .throw f

namespace Shape

variable {types : ObjectTypes} {s : Shape} {v : Value} {w w' : World} {f : Failure}

theorem send_handsOut (ht : ∀ cls t, types cls = some t → t.Retains good refs) (hw : good w.heap) (s : Shape)
    (v : Value) : w.HandsOut good refs (s.handouts types v w) ((s.send types v).after w) := by
  unfold handouts
  cases hc : s.check v with
  | error f =>
    have ha : (s.send types v).after w = w := by
      refine after_of_error (bind_of_error (e := f) ?_)
      rw [hc]
      rfl
    rw [ha]
    exact .nothing hw
  | ok u =>
    have ha : (s.send types v).after w = ((s.write v).run types).after w := by
      have hu : (ofExcept (s.check v) : Act Unit) w = .ok u w := by
        rw [hc]
        rfl
      unfold after
      rw [send, bind_of_ok hu]
    rw [ha, Script.run_after]
    exact runPieces_handsOut ht _ hw

theorem handouts_eq_nil_iff (types : ObjectTypes) (s : Shape) (v : Value) (w : World) :
    s.handouts types v w = [] ↔ ∀ p ∈ s.firstHandle? v, p.handouts types w = [] := by
  unfold handouts firstHandle?
  cases s.check v with
  | error f => simp
  | ok u => exact ForeignBridge.handouts_eq_nil_iff types _ w

/-- A failed sending gives nothing back: the borrows are as they were, but what was handed out stays handed out.
So it is without effect just if the first object or implementation on its way was refused, or there was none. -/
theorem failed_sending (ht : ∀ cls t, types cls = some t → t.Retains good refs) (hw : good w.heap)
    (h : s.send types v w = .error f w' ∨ ∃ a : Allocator, a.lower types s v w = .error f w') :
    w.HandsOut good refs (s.handouts types v w) w' ∧
      (((∀ r, w'.entriesIn r = w.entriesIn r) ∧ ∀ p, refs p w'.heap = refs p w.heap) ↔
        ∀ p ∈ s.firstHandle? v, p.handouts types w = []) := by
  have hout : w.HandsOut good refs (s.handouts types v w) w' := by
    have hs := s.send_handsOut ht hw v
    obtain h | ⟨a, h⟩ := h
    · rwa [after_of_error h] at hs
    · have lowered {γ : Type} {view : World → γ} (hv : Apart view) : view w' = view ((s.send types v).after w) := by
        rw [← after_of_error h]
        exact after_bind (hv.copy a) w
      exact hs.of_eq (lowered .guards) (lowered .registries) (lowered (.heap id))
  exact ⟨hout, hout.unchanged_iff.trans (s.handouts_eq_nil_iff types v w)⟩

/-- Wallets, whose references are counted. -/
def wallets : ObjectTypes := fun cls =>
  if cls = "Wallet" then some ⟨"Wallet", countingClone, countingFree, .direct⟩ else none

/-- A wallet, a released one and a registry. -/
def walletWorld : World :=
  { World.new [] with
    heap := ⟨[(7, 1), (8, 0)], [8], [], []⟩,
    guards := [.new 7 defaultMaxBorrows, ⟨8, defaultMaxBorrows, ⟨-1⟩, ⟨true⟩⟩],
    registries := [.new "Sink" 1] }

/-- Someone to tell, and wallets. -/
def transfer : Shape :=
  .record "Transfer" "Transfer"
    (.ofList [("sink", .callback "Sink" ["put"] 0), ("wallets", .sequence (.object "Wallet"))])

def badTransfer : Value :=
  .record "Transfer" [] [("sink", some (.implementation "S" 0 ["put"])),
    ("wallets", some (.list [.wrapper "Wallet" 0, .wrapper "Wallet" 1]))]

example : transfer.handouts wallets badTransfer walletWorld =
    [.entry 0 (.implementation "S" 0 ["put"]), .reference 7] := by rfl

theorem failed_sending_transfer :
    (∀ cls t, wallets cls = some t → t.Retains NativeHeap.ScriptsFail NativeHeap.countOf) ∧
      walletWorld.heap.ScriptsFail ∧
      ∃ w', transfer.send wallets badTransfer walletWorld = .error (.useAfterDestroy "Wallet" 8) w' ∧
        walletWorld.HandsOut NativeHeap.ScriptsFail NativeHeap.countOf
          [.entry 0 (.implementation "S" 0 ["put"]), .reference 7] w' := by
  have ht : ∀ cls t, wallets cls = some t → t.Retains NativeHeap.ScriptsFail NativeHeap.countOf := by
    intro cls t h
    unfold wallets at h
    split at h
    · cases h
      exact counting_retains _ _
    · cases h
  have hw : walletWorld.heap.ScriptsFail := nofun
  have hs : ∃ w', transfer.send wallets badTransfer walletWorld = .error (.useAfterDestroy "Wallet" 8) w' := ⟨_, rfl⟩
  obtain ⟨w', hs⟩ := hs
  exact ⟨ht, hw, w', hs, (failed_sending ht hw (.inl hs)).1⟩

/-- A released wallet after another one: the reference to the first stays out. -/
theorem failed_sending_leaves_reference :
    ∃ w', (Shape.sequence (.object "Wallet")).send wallets (.list [.wrapper "Wallet" 0, .wrapper "Wallet" 1]) walletWorld =
        .error (.useAfterDestroy "Wallet" 8) w' ∧
      walletWorld.heap.counts = [(7, 1), (8, 0)] ∧ w'.heap.counts = [(7, 2), (8, 0)] :=
  ⟨_, rfl, rfl, rfl⟩

end Shape

end ForeignBridge
