import ForeignBridge.Proofs.Memory.Accounts
import Mathlib.Logic.Function.Iterate

/-!
Frees that a library does not do. The function that frees is called with a status like any other; settling the status
may release an error buffer, and that calls the function again. Each call takes one entry of the script, so the calls
come to an end with it. The buffer itself stays live just if the first call was answered by an outcome.
-/

namespace ForeignBridge

open Act

variable {space : String} {b : Buffer} {w : World} {f g : Buffer → Act Unit}

namespace Arena

/-- The arenas that come about. -/
inductive Reached : Arena → Prop
  | new (refusals : List Nat) : Reached (.new refusals)
  | place {a : Arena} (data : Bytes) (h : Reached a) : Reached (a.place data).2
  | copy {a : Arena} (data : Bytes) (h : Reached a) : Reached (a.copy data).2
  | free {a : Arena} (b : Buffer) (h : Reached a) : Reached (a.free b).2

variable {a : Arena}

/-- Every live buffer has a number of its own, among those given so far. -/
structure Numbered (a : Arena) : Prop where
  distinct : a.live.Nodup
  given : ∀ n ∈ a.live, n ≤ a.contents.length

theorem Numbered.place (h : a.Numbered) (data : Bytes) : (a.place data).2.Numbered where
  distinct := by
    apply List.Nodup.append h.distinct (List.nodup_singleton _)
    intro n hn hnew
    have hle := h.given n hn
    rw [List.mem_singleton.mp hnew] at hle
    omega
  given := by
    intro n hn
    change n ≤ (a.contents ++ [data]).length
    rw [List.length_append, List.length_singleton]
    rcases List.mem_append.mp hn with hold | hnew
    · have hle := h.given n hold
      omega
    · rw [List.mem_singleton.mp hnew]

theorem Numbered.copy (h : a.Numbered) (data : Bytes) : (a.copy data).2.Numbered := by
  have hc : ({ a with copies := a.copies + 1 } : Arena).Numbered := ⟨h.distinct, h.given⟩
  unfold Arena.copy
  dsimp only
  split
  · exact hc
  · exact hc.place data

theorem Numbered.free (h : a.Numbered) (b : Buffer) : (a.free b).2.Numbered := by
  unfold Arena.free
  split
  · exact ⟨h.distinct, h.given⟩
  · split
    · exact ⟨h.distinct.erase _, fun n hn => h.given n (List.mem_of_mem_erase hn)⟩
    · exact h

theorem Reached.numbered (h : a.Reached) : a.Numbered := by
  induction h with
  | new refusals => exact ⟨List.nodup_nil, nofun⟩
  | place data _ ih => exact ih.place data
  | copy data _ ih => exact ih.copy data
  | free b _ ih => exact ih.free b

end Arena

/-- The world in which a buffer's free runs when the buffer is released. -/
def World.releasing (w : World) (b : Buffer) : World :=
  { w with log := w.log ++ [⟨.debug, .buffers, s!"Releasing native buffer {b.text}"⟩] }

theorem releaseWith_eq (f : Buffer → Act Unit) (b : Buffer) (w : World) : releaseWith f b w = f b (w.releasing b) :=
  bind_of_ok rfl

theorem andFinally_congr_last {α : Type} {x : Act α} {last last' : Act Unit}
    (h : last (x.after w) = last' (x.after w)) : World.andFinally x last w = World.andFinally x last' w := by
  unfold after at h
  unfold World.andFinally
  cases hx : x w with
  | ok a v =>
    rw [hx] at h
    dsimp only at h ⊢
    rw [h]
  | error e v =>
    rw [hx] at h
    dsimp only at h ⊢
    rw [h]

/-- Settling a status that declares no error frees with no more than one free: that of its error buffer. -/
theorem settleWith_congr {s : CallStatus} (h : f s.error (w.releasing s.error) = g s.error (w.releasing s.error)) :
    settleWith f none s w = settleWith g none s w := by
  have hrelease : releaseWith f s.error w = releaseWith g s.error w := by
    rw [releaseWith_eq, releaseWith_eq, h]
  have hmessage : liftMessageWith f s.error w = liftMessageWith g s.error w := andFinally_congr_last hrelease
  unfold settleWith
  split
  · rfl
  split
  · exact bind_of_eq hrelease _
  split
  · split
    · exact bind_of_eq hmessage _
    · split
      · exact bind_of_eq hrelease _
      · rfl
  · rfl

/-- The world once a call of the free function was answered by an outcome. -/
def World.answered (w : World) (o : NativeOutcome) (rest : FaultScript) : World :=
  { w with faults := { w.faults with free := rest }, arena := (o.write w.arena).2 }

/-- Whether the next call of the free function is answered by an outcome, and so does not free. -/
def World.Refuses (w : World) : Prop := ∃ o rest, w.faults.free = some o :: rest

theorem World.not_refuses (h : w.faults.free.head?.join = none) : ¬ w.Refuses := by
  rintro ⟨o, rest, hs⟩
  rw [hs] at h
  cases h

theorem after_inArena {α : Type} (x : Arena → Except Failure α × Arena) (w : World) :
    ((World.inArena x).after w).arena = (x w.arena).2 := by
  unfold after World.inArena
  cases hx : x w.arena with
  | mk r a => cases r <;> rfl

namespace Allocator

/-- One call of a library's free function, which does its work or leaves the outcome scripted in its place. -/
def callFree (b : Buffer) : Act CallStatus := do
  match (← get).faults.free with
  | [] =>
    World.inArena (·.free b)
    return .fresh
  | none :: rest =>
    modify fun w => { w with faults := { w.faults with free := rest } }
    World.inArena (·.free b)
    return .fresh
  | some o :: rest =>
    modify fun w => { w with faults := { w.faults with free := rest } }
    writeOutcome o

def settleFree (space : String) (again : Buffer → Act Unit) (s : CallStatus) : Act Unit := do
  let _ ← World.onFailure (settleWith again none s) (noteFailedCall (freeSymbol space))

/-- A free through a library: one call of its function, and then the settling of the status, in which `again` is what
frees. -/
def freeBy (space : String) (again : Buffer → Act Unit) (b : Buffer) : Act Unit := do
  settleFree space again (← callFree b)

theorem callFree_of_works (h : ¬ w.Refuses) : callFree b w =
    (do World.inArena (·.free b); return .fresh : Act CallStatus)
      { w with faults := { w.faults with free := w.faults.free.tail } } := by
  apply (bind_of_ok (v := w) rfl).trans
  rcases hs : w.faults.free with _ | ⟨_ | o, rest⟩
  · dsimp only
    rw [List.tail_nil, ← hs]
  · exact bind_of_ok rfl
  · exact absurd ⟨o, rest, hs⟩ h

/-- A call that does its work leaves nothing to settle. -/
theorem freeBy_of_works (h : ¬ w.Refuses) (again : Buffer → Act Unit) : freeBy space again b w =
    World.inArena (·.free b) { w with faults := { w.faults with free := w.faults.free.tail } } := by
  apply (bind_of_eq (callFree_of_works h) _).trans
  let moved : World := { w with faults := { w.faults with free := w.faults.free.tail } }
  cases hf : World.inArena (·.free b) moved with
  | ok u v =>
    have hfresh : (do World.inArena (·.free b); return .fresh : Act CallStatus) moved = .ok .fresh v := bind_of_ok hf
    exact bind_of_ok hfresh
  | error e v =>
    have hfresh : (do World.inArena (·.free b); return .fresh : Act CallStatus) moved = .error e v := bind_of_error hf
    exact bind_of_error hfresh

theorem freeBy_of_outcome {o : NativeOutcome} {rest : FaultScript} (h : w.faults.free = some o :: rest)
    (again : Buffer → Act Unit) :
    freeBy space again b w = settleFree space again (o.write w.arena).1 (w.answered o rest) := by
  apply bind_of_ok
  apply (bind_of_ok (v := w) rfl).trans
  rw [h]
  exact bind_of_ok rfl

theorem settleFree_congr {s : CallStatus} (h : f s.error (w.releasing s.error) = g s.error (w.releasing s.error)) :
    settleFree space f s w = settleFree space g s w := by
  apply bind_of_eq
  unfold World.onFailure
  rw [settleWith_congr h]

/-- What frees through a library frees again by itself. -/
theorem free_eq_freeBy (space : String) (b : Buffer) (w : World) :
    (library space).free b w = freeBy space (library space).free b w := by
  change freeThrough space w.faults.free b w = _
  by_cases hw : w.Refuses
  · obtain ⟨o, rest, hs⟩ := hw
    rw [freeBy_of_outcome hs, hs]
    -- the script that is left is the one in the world, so both free alike wherever the settling gets to
    refine Eq.trans ?_ (settleFree_congr (f := freeThrough space rest) rfl)
    exact (bind_of_ok (v := { w with faults := { w.faults with free := rest } }) rfl).trans (bind_of_ok rfl)
  · rw [freeBy_of_works hw]
    rcases hs : w.faults.free with _ | ⟨_ | o, rest⟩
    · have hself : { w with faults := { w.faults with free := [] } } = w := by rw [← hs]
      rw [List.tail_nil, hself, freeThrough]
    · exact bind_of_ok rfl
    · exact absurd ⟨o, rest, hs⟩ hw

/-- What comes of something that frees depends on one of the frees, and on no other: on that of this buffer in this
world. -/
structure HangsOn (x : (Buffer → Act Unit) → EStateM.Result Failure World Unit) (b : Buffer) (w : World) : Prop where
  enough : ∀ f g, f b w = g b w → x f = x g
  needed : ¬ ∀ f g, x f = x g

theorem HangsOn.unique {x : (Buffer → Act Unit) → EStateM.Result Failure World Unit} {b' : Buffer} {w' : World}
    (h : HangsOn x b w) (h' : HangsOn x b' w') : (b, w) = (b', w') := by
  classical
  by_contra hne
  apply h.needed
  intro f g
  -- as one of them at the one place and as the other at the other
  let mixed : Buffer → Act Unit := fun c v => if (c, v) = (b, w) then f c v else g c v
  have hf : x f = x mixed := h.enough f mixed (if_pos rfl).symm
  have hg : x mixed = x g := h'.enough mixed g (if_neg fun heq => hne heq.symm)
  exact hf.trans hg

/-- The buffers that a library's free function is called for, in turn, when one is freed through the library. -/
inductive FreeCalls (space : String) : Buffer → World → List Buffer → Prop
  | last {b : Buffer} {w : World} (h : ∀ f g, freeBy space f b w = freeBy space g b w) : FreeCalls space b w [b]
  | more {b b' : Buffer} {w w' : World} {calls : List Buffer} (h : HangsOn (freeBy space · b w) b' w')
      (rest : FreeCalls space b' w' calls) : FreeCalls space b w (b :: calls)

namespace FreeCalls

variable {calls calls' : List Buffer}

theorem unique (h : FreeCalls space b w calls) (h' : FreeCalls space b w calls') : calls = calls' := by
  induction h generalizing calls' with
  | last h =>
    cases h' with
    | last => rfl
    | more hangs => exact absurd h hangs.needed
  | more hangs _ ih =>
    cases h' with
    | last h => exact absurd h hangs.needed
    | more hangs' rest =>
      cases hangs.unique hangs'
      rw [ih rest]

/-- A free that may free again so often as the calls need never asks for more. -/
theorem iterate (h : FreeCalls space b w calls) {n : Nat} (hn : calls.length ≤ n) (f g : Buffer → Act Unit) :
    (freeBy space)^[n] f b w = (freeBy space)^[n] g b w := by
  induction h generalizing n with
  | last h =>
    cases n with
    | zero => cases hn
    | succ n =>
      rw [Function.iterate_succ_apply', Function.iterate_succ_apply']
      exact h _ _
  | more hangs _ ih =>
    cases n with
    | zero => cases hn
    | succ n =>
      rw [Function.iterate_succ_apply', Function.iterate_succ_apply']
      exact hangs.enough _ _ (ih (Nat.le_of_succ_le_succ hn))

theorem of_works (h : ¬ w.Refuses) : FreeCalls space b w [b] := by
  apply last
  intro f g
  rw [freeBy_of_works h, freeBy_of_works h]

/-- Each call but the last takes an entry of the script. -/
theorem exists_within (space : String) (b : Buffer) (w : World) :
    ∃ more, FreeCalls space b w (b :: more) ∧ more.length ≤ w.faults.free.length := by
  induction hs : w.faults.free generalizing b w with
  | nil =>
    have hw : ¬ w.Refuses := World.not_refuses (by rw [hs]; rfl)
    exact ⟨[], of_works hw, le_rfl⟩
  | cons entry rest ih =>
    cases entry with
    | none =>
      have hw : ¬ w.Refuses := World.not_refuses (by rw [hs]; rfl)
      exact ⟨[], of_works hw, Nat.zero_le _⟩
    | some o =>
      by_cases hlast : ∀ f g, freeBy space f b w = freeBy space g b w
      · exact ⟨[], last hlast, Nat.zero_le _⟩
      · let s := (o.write w.arena).1
        let v := (w.answered o rest).releasing s.error
        obtain ⟨more, hmore, hlength⟩ := ih s.error v rfl
        have henough (f g : Buffer → Act Unit) (h : f s.error v = g s.error v) :
            freeBy space f b w = freeBy space g b w := by
          rw [freeBy_of_outcome hs, freeBy_of_outcome hs]
          exact settleFree_congr h
        exact ⟨s.error :: more, .more ⟨henough, hlast⟩ hmore, Nat.succ_le_succ hlength⟩

end FreeCalls

theorem settleFree_arena (space : String) (s : CallStatus) :
    ((settleFree space f s).after w).arena = ((settleWith f none s).after w).arena := by
  have hnote (e : Failure) : (noteFailedCall (freeSymbol space) e).Keeps World.arena :=
    fun v => congrArg Prod.fst (noteFailedCall_keeps _ e v)
  calc ((settleFree space f s).after w).arena
      = ((World.onFailure (settleWith f none s) (noteFailedCall (freeSymbol space))).after w).arena :=
        after_bind (fun _ => .pure _) w
    _ = ((settleWith f none s).after w).arena := after_onFailure hnote w

theorem free_arena_of_works (h : ¬ w.Refuses) (space : String) (b : Buffer) :
    (((library space).free b).after w).arena = (w.arena.free b).2 := by
  rw [after_congr ((free_eq_freeBy space b w).trans (freeBy_of_works h _)), after_inArena]

theorem free_arena_of_outcome {o : NativeOutcome} {rest : FaultScript} (h : w.faults.free = some o :: rest)
    (space : String) (b : Buffer) : (((library space).free b).after w).arena =
      ((settleWith (library space).free none (o.write w.arena).1).after (w.answered o rest)).arena := by
  rw [after_congr ((free_eq_freeBy space b w).trans (freeBy_of_outcome h _)), settleFree_arena]

/-- Where the arena frees, at most the one buffer goes. -/
theorem count_le_free (a : Arena) (b : Buffer) (m : Nat) :
    a.live.count m ≤ (a.free b).2.live.count m + if b.data = some m then 1 else 0 := by
  unfold Arena.free
  cases hd : b.data with
  | none => exact Nat.le_add_right _ _
  | some n =>
    dsimp only
    split
    · change _ ≤ (a.live.erase n).count m + _
      by_cases hn : n = m
      · rw [hn, List.count_erase_self, if_pos rfl]
        omega
      · rw [List.count_erase_of_ne (Ne.symm hn)]
        exact Nat.le_add_right _ _
    · exact Nat.le_add_right _ _

/-- An outcome that stands in for a free brings the buffer that its status names. -/
theorem count_answered (w : World) (o : NativeOutcome) (rest : FaultScript) (m : Nat) :
    (w.answered o rest).arena.live.count m =
      w.arena.live.count m + if (o.write w.arena).1.error.data = some m then 1 else 0 := by
  unfold World.answered NativeOutcome.write
  cases o.payload with
  | none => rfl
  | unbacked n => rfl
  | data bytes =>
    change (w.arena.live ++ [w.arena.contents.length + 1]).count m = _
    rw [List.count_append, List.count_singleton]
    congr 1
    simp [Arena.place]

/-- The settling frees at most what the outcome brought, so the buffer that was to be freed stays. -/
theorem count_le_of_outcome {o : NativeOutcome} {rest : FaultScript} {m : Nat} (hs : w.faults.free = some o :: rest)
    (h : ∀ c v, v.faults.free = rest → v.arena.live.count m ≤
      (((library space).free c).after v).arena.live.count m + if c.data = some m then 1 else 0) (b : Buffer) :
    w.arena.live.count m ≤ (((library space).free b).after w).arena.live.count m := by
  let s := (o.write w.arena).1
  let v := w.answered o rest
  have hcount : v.arena.live.count m = w.arena.live.count m + if s.error.data = some m then 1 else 0 :=
    count_answered w o rest m
  rw [free_arena_of_outcome hs]
  rcases settleWith_after_cases (library space).free none s v with hsettle | hsettle
  · have hreleased := h s.error (v.releasing s.error) rfl
    rw [hsettle, after_congr (releaseWith_eq _ s.error v)]
    change v.arena.live.count m ≤ _ at hreleased
    omega
  · rw [hsettle]
    omega

theorem free_count_le (space : String) (b : Buffer) (w : World) (m : Nat) : w.arena.live.count m ≤
    (((library space).free b).after w).arena.live.count m + if b.data = some m then 1 else 0 := by
  induction hs : w.faults.free generalizing b w with
  | nil =>
    rw [free_arena_of_works (World.not_refuses (by rw [hs]; rfl))]
    exact count_le_free w.arena b m
  | cons entry rest ih =>
    cases entry with
    | none =>
      rw [free_arena_of_works (World.not_refuses (by rw [hs]; rfl))]
      exact count_le_free w.arena b m
    | some o => exact (count_le_of_outcome hs ih b).trans (Nat.le_add_right _ _)

/-- A live buffer outlives its free just if the first call was answered by an outcome. -/
theorem free_leaves_iff {m : Nat} (hw : w.arena.Numbered) (hb : b.data = some m) (hm : m ∈ w.arena.live) :
    m ∈ (((library space).free b).after w).arena.live ↔ w.Refuses := by
  constructor
  · intro hlive
    by_contra hworks
    rw [free_arena_of_works hworks] at hlive
    rw [Arena.free, hb] at hlive
    dsimp only at hlive
    rw [List.contains_eq_mem, decide_eq_true hm, if_pos rfl] at hlive
    exact hw.distinct.not_mem_erase hlive
  · rintro ⟨o, rest, hs⟩
    have hcount := count_le_of_outcome (m := m) hs (fun c v _ => free_count_le space c v m) b
    exact List.count_pos_iff.mp ((List.count_pos_iff.mpr hm).trans_le hcount)

/-- A free through a library comes to an end, whatever the library answers: the function that frees is called at most
once more than there are entries left in the script, and so often unrolled, the free does not depend on what would
free after that. The buffer stays live just if the first call did not free it. -/
theorem free_ends (space : String) {m : Nat} (hw : w.arena.Reached) (hb : b.data = some m) (hm : m ∈ w.arena.live) :
    ∃ more, (∀ calls, FreeCalls space b w calls ↔ calls = b :: more) ∧ more.length ≤ w.faults.free.length ∧
      (∀ n, more.length < n → ∀ last, (freeBy space)^[n] last b w = (library space).free b w) ∧
      (m ∈ (((library space).free b).after w).arena.live ↔ w.Refuses) := by
  obtain ⟨more, hcalls, hlength⟩ := FreeCalls.exists_within space b w
  have hfixed : Function.IsFixedPt (freeBy space) (library space).free := by
    funext c v
    exact (free_eq_freeBy space c v).symm
  refine ⟨more, fun calls => ⟨fun h => h.unique hcalls, ?_⟩, hlength, ?_, free_leaves_iff hw.numbered hb hm⟩
  · rintro rfl
    exact hcalls
  · intro n hn last
    rw [hcalls.iterate hn last (library space).free, (hfixed.iterate n).eq]

/-- A world with one live buffer, whose library answers two frees before it does one. -/
def stubbornWorld : World :=
  let script : FaultScript := [some ⟨2, .data [0x6e, 0x6f]⟩, some ⟨1, .none⟩, none]
  { World.new [] with arena := ((Arena.new []).place [7]).2, faults := ⟨[], [], script⟩ }

/-- The message of the first fault is freed by a call that is answered in turn, so the second failure is what is
raised, and both buffers stay. -/
theorem free_ends_stubborn : stubbornWorld.arena.Reached ∧ 1 ∈ stubbornWorld.arena.live ∧
    (∃ more, FreeCalls "bell" ⟨1, 1, some 1⟩ stubbornWorld (⟨1, 1, some 1⟩ :: more) ∧ more.length ≤ 3 ∧
      ∀ last, (freeBy "bell")^[more.length + 1] last ⟨1, 1, some 1⟩ stubbornWorld =
        (library "bell").free ⟨1, 1, some 1⟩ stubbornWorld) ∧
    ∃ w', (library "bell").free ⟨1, 1, some 1⟩ stubbornWorld = .error .undeclaredError w' ∧ 1 ∈ w'.arena.live := by
  have hw : stubbornWorld.arena.Reached := .place [7] (.new [])
  have hm : 1 ∈ stubbornWorld.arena.live := List.mem_cons_self
  obtain ⟨more, hcalls, hlength, hunrolled, hlive⟩ := free_ends "bell" (b := ⟨1, 1, some 1⟩) hw rfl hm
  refine ⟨hw, hm, ⟨more, (hcalls _).mpr rfl, hlength, hunrolled _ (Nat.lt_succ_self _)⟩, _, rfl, ?_⟩
  exact hlive.mpr ⟨_, _, rfl⟩

end Allocator

end ForeignBridge
