import ForeignBridge.Proofs.Bindings.Restarts
import ForeignBridge.Proofs.Callback.Escape

/-!
Dispatchers that were closed. What was given before a close stands for nothing after it, so calls on those handles are
refused and frees of them change nothing. But what is lowered through a closed dispatcher is registered as before, and
calls reach it.
-/

namespace ForeignBridge

open Act Failure

/-- One thing done with a dispatcher, from either side. -/
inductive DispatcherStep
  | lower (v : Value)
  | send (s : Shape) (v : Value)
  | dispatch (m : CallbackMethod) (handle : Int) (data : Bytes) (initial : DispatchResult)
  | free (handle : Int)
  | close

namespace DispatcherStep

/-- The world after a step, whether it failed or not. -/
def run (id : Nat) (w : World) : DispatcherStep → World
  | lower v => w.through id fun d => d.shape.lowerIn Dispatcher.noObjects v
  | send s v => w.through id fun _ => s.send Dispatcher.noObjects v
  | dispatch m handle data initial => w.through id fun d => d.dispatch m handle data initial
  | free handle => w.through id fun d => d.free handle
  | close => w.through id fun _ => Dispatcher.close id

/-- What a step does to the entries of the dispatcher's registry. -/
def events (id : Nat) (w : World) : DispatcherStep → List (HandleEvent Value)
  | free handle => [.removed handle]
  | close => [.cleared]
  | s => w.issues (s.run id w) id

def closes : DispatcherStep → Bool
  | close => true
  | _ => false

/-- Whether implementations are given away in a step, other than by a call. -/
def lowers : DispatcherStep → Bool
  | lower _ | send _ _ => true
  | _ => false

/-- The world after some steps. -/
def through (id : Nat) (steps : List DispatcherStep) (w : World) : World := steps.foldl (run id) w

/-- The world after some steps and a close. -/
def closing (id : Nat) (steps : List DispatcherStep) (w : World) : World := close.run id (through id steps w)

/-- What has happened to the entries of the registry in some steps. -/
def history (id : Nat) : List DispatcherStep → World → List (HandleEvent Value)
  | [], _ => []
  | s :: rest, w => s.events id w ++ history id rest (s.run id w)

end DispatcherStep

namespace Dispatcher

variable {d : Dispatcher} {m : CallbackMethod} {handle : Int} {data : Bytes} {initial : DispatchResult} {w : World}
  {t : HandleTable Value}

/-! ### Handles that stand for nothing -/

/-- The text of a fault that tells of a handle that stands for nothing. -/
def unknownText (handle : Int) (registry : String) : String :=
  "UnknownHandleError: " ++ (Failure.unknownHandle handle registry).message

/-- There is no buffer for a text: it cannot be encoded, or the allocator does not make one. -/
def CannotTell (d : Dispatcher) (text : String) (w : World) : Prop :=
  ∃ log, ∀ data, Failure.ofEncoding text = .ok data →
    ∀ b w', d.allocator.copy data { w with log := log } ≠ .ok (some b) w'

/-- From one world to another a call was refused: the fault is told, and no implementation, dispatcher or registry
changed. -/
structure Refused (d : Dispatcher) (text : String) (w : World) (b : Buffer) (w' : World) : Prop where
  implementations : w'.implementations = w.implementations
  dispatchers : w'.dispatchers = w.dispatchers
  registries : w'.registries = w.registries
  told : w'.Holds b (Utf8.encode text) ∨ b = .null ∧ d.CannotTell text w

theorem report_keeps {γ : Type} {view : World → γ} (hv : Apart view) {make : Act (Option Buffer)}
    (hm : make.Keeps view) (code : Int) (codeName : String) : (d.report code codeName make).Keeps view := by
  have hexpect : ∀ b, (expectBuffer b).Keeps view := by
    rintro (_ | b)
    · exact .throw _
    · exact .pure b
  intro w
  have h := (hm.bind hexpect) w
  unfold after report
  cases hr : (make >>= expectBuffer) w with
  | ok b w' => rwa [after_of_ok hr] at h
  | error f w' =>
    rw [after_of_error hr] at h
    dsimp only
    split_ifs
    · exact h
    · exact (hv.log w' _).trans h

theorem ofEncoding_keeps {γ : Type} {view : World → γ} (text : String) :
    (ofExcept (Failure.ofEncoding text) : Act Bytes).Keeps view := by
  cases Failure.ofEncoding text with
  | ok data => exact .pure data
  | error f => exact .throw f

/-- A fault with the text, or with none if there is no buffer for it. -/
theorem report_refused (text : String) (w : World) (log : List LogEntry) :
    ∃ b w', d.report CallStatus.unexpectedError "UNEXPECTED_ERROR"
        (do d.allocator.copy (← ofExcept (Failure.ofEncoding text))) { w with log := log } =
          .ok ⟨CallStatus.unexpectedError, b⟩ w' ∧
      d.Refused text w b w' := by
  let make : Act (Option Buffer) := do d.allocator.copy (← ofExcept (Failure.ofEncoding text))
  let noted : World := { w with log := log }
  have hmake : make.FailsAs Failure.Unraised :=
    .bind (.ofExcept (ofEncoding_failsInWords _).unraised) fun sent => d.allocator.copy_unraised sent
  let report := d.report CallStatus.unexpectedError "UNEXPECTED_ERROR" make
  have hkeeps {γ : Type} {view : World → γ} (hv : Apart view) {s : CallStatus} {w' : World}
      (hr : report noted = .ok s w') : view w' = view w := by
    have hm : make.Keeps view := .bind (ofEncoding_keeps text) fun data => hv.copy d.allocator data
    have h := report_keeps (d := d) hv hm CallStatus.unexpectedError "UNEXPECTED_ERROR" noted
    rw [after_of_ok hr] at h
    exact h.trans (hv.log w log)
  have hrefused {b : Buffer} {w' : World} (hr : report noted = .ok ⟨CallStatus.unexpectedError, b⟩ w')
      (hb : w'.Holds b (Utf8.encode text) ∨ b = .null ∧ d.CannotTell text w) : d.Refused text w b w' :=
    { implementations := hkeeps ⟨fun _ _ => rfl, fun _ _ => rfl, fun _ _ => rfl⟩ hr
      dispatchers := hkeeps ⟨fun _ _ => rfl, fun _ _ => rfl, fun _ _ => rfl⟩ hr
      registries := hkeeps ⟨fun _ _ => rfl, fun _ _ => rfl, fun _ _ => rfl⟩ hr
      told := hb }
  by_cases hgiven : ∃ b w', make noted = .ok (some b) w'
  · obtain ⟨b, w', hb⟩ := hgiven
    have hr : report noted = .ok ⟨CallStatus.unexpectedError, b⟩ w' := report_ok hb
    obtain ⟨data, v, hdata, hcopy⟩ := bind_eq_ok hb
    unfold Failure.ofEncoding at hdata
    split at hdata <;> cases hdata
    exact ⟨b, w', hr, hrefused hr (.inl (d.allocator.copy_copied hcopy).holds)⟩
  · obtain ⟨b, w', hb, -⟩ | ⟨w', hr⟩ := report_cases (d := d) hmake CallStatus.unexpectedError "UNEXPECTED_ERROR"
      noted
    · exact absurd ⟨b, w', hb⟩ hgiven
    · refine ⟨.null, w', hr, hrefused hr (.inr ⟨rfl, log, ?_⟩)⟩
      intro data hdata b v hcopy
      apply hgiven
      refine ⟨b, v, (bind_of_ok (v := noted) ?_).trans hcopy⟩
      rw [hdata]
      rfl

/-- A call on a handle that stands for nothing is refused. -/
theorem dispatch_dead (ht : w.registries[d.registry]? = some t) (hf : t.find? handle = none) (m : CallbackMethod)
    (data : Bytes) (initial : DispatchResult) :
    ∃ b w', d.dispatch m handle data initial w = .ok ⟨⟨CallStatus.unexpectedError, b⟩, initial.returned⟩ w' ∧
      d.Refused (unknownText handle t.name) w b w' := by
  let f := Failure.unknownHandle handle t.name
  obtain ⟨log, hstart⟩ := dispatch_noted (d := d) m handle data initial w
  let noted : World := { w with log := log }
  have hperform : d.perform m handle data noted = .error f noted := by
    apply perform_of_error
    apply calling_of_dead
    rw [List.getD_eq_getElem?_getD, ht, Option.getD_some, HandleTable.get, hf]
  have hu : f.Unraised := rfl
  have hanswer : d.answering m initial (.error f) =
      (do return ⟨← d.reportFailure m f, initial.returned⟩ : Act DispatchResult) := by
    simp only [answering, hu.caught, if_false]
  obtain ⟨log', hreport⟩ := reportFailure_undeclared (d := d) (declared?_of_unraised (m := m) hu) hu.told noted
  obtain ⟨b, w', hr, hrefused⟩ := d.report_refused (unknownText handle t.name) w log'
  have htext : s!"{f.className}: {f.message}" = unknownText handle t.name := rfl
  rw [htext] at hreport
  refine ⟨b, w', ?_, hrefused⟩
  rw [hstart, attempt_of_error hperform, hanswer]
  exact bind_of_ok (hreport.trans hr)

/-- Freeing a handle that stands for nothing is noted, and that is all: loudly, unless the dispatcher is closed. -/
theorem free_dead (ht : w.registries[d.registry]? = some t) (hf : t.find? handle = none) :
    ∃ message, d.free handle w =
      .ok () { w with log := w.log ++ [⟨if d.closed then .debug else .critical, .callbacks, message⟩] } := by
  unfold free
  rw [bind_of_ok (table_eq ht), HandleTable.remove_of_find?_eq_none hf]
  cases d.closed <;> exact ⟨_, rfl⟩

/-- What a closed dispatcher notes when a handle is freed is for those who debug. -/
theorem free_calm (ht : w.registries[d.registry]? = some t) (hc : d.closed = true) (handle : Int) :
    ∃ lines, ((d.free handle).after w).log = w.log ++ lines ∧ ∀ l ∈ lines, l.level = .debug := by
  have hnone : ∀ l ∈ ([] : List LogEntry), l.level = .debug := nofun
  have hone (message : String) : ∀ l ∈ [(⟨.debug, .callbacks, message⟩ : LogEntry)], l.level = .debug := by
    intro l hl
    rw [List.mem_singleton.mp hl]
  cases hf : t.find? handle with
  | none =>
    obtain ⟨message, h⟩ := free_dead ht hf
    rw [after_of_ok h, hc]
    exact ⟨_, rfl, hone message⟩
  | some v =>
    have hget : t.get handle = .ok v := by rw [HandleTable.get, hf]
    unfold after free
    rw [bind_of_ok (table_eq ht), HandleTable.remove, hget]
    cases d.logDispatch
    · exact ⟨[], (List.append_nil _).symm, hnone⟩
    · exact ⟨_, rfl, hone _⟩

end Dispatcher

/-! ### Steps -/

/-- A dispatcher is there, and its registry is as its history says. -/
structure World.Tracks (w : World) (id : Nat) (d : Dispatcher) (name : String) (first : Int)
    (history : List (HandleEvent Value)) : Prop where
  there : w.dispatchers[id]? = some d
  follows : d.Follows name first history w

namespace World.Tracks

variable {w w' : World} {id : Nat} {d : Dispatcher} {name : String} {first : Int} {history : List (HandleEvent Value)}

theorem through_eq {α : Type} (h : w.Tracks id d name first history) (x : Dispatcher → Act α) :
    w.through id x = (x d).after w := by
  rw [World.through, h.there]

theorem entries (h : w.Tracks id d name first history) :
    ∃ t, w.registries[d.registry]? = some t ∧ w.entriesOf id = t.entries ∧ t.Follows name first history := by
  obtain ⟨t, ht, hf⟩ := h.follows
  exact ⟨t, ht, World.entriesOf_eq (World.Traced.owners_getElem? h.there) ht, hf⟩

/-- What only inserts in registries adds what is new to the history. -/
theorem inserted (h : w.Tracks id d name first history) (hd : w'.dispatchers = w.dispatchers)
    (ht : ∀ r : Nat, ∃ things, w'.registries[r]? = w.registries[r]?.map (·.insertAll things)) :
    w'.Tracks id d name first (history ++ w.issues w' id) := by
  obtain ⟨t, htable, he, hf⟩ := h.entries
  obtain ⟨things, hthings⟩ := ht d.registry
  rw [htable, Option.map_some] at hthings
  obtain ⟨new, hnew, hfollows⟩ := hf.insertAll things
  have hthere : w'.dispatchers[id]? = some d := by rw [hd, h.there]
  have hdrop : (w'.entriesOf id).drop (w.entriesOf id).length = new := by
    rw [World.entriesOf_eq (World.Traced.owners_getElem? hthere) hthings, he, hnew, List.drop_left]
  refine ⟨hthere, _, hthings, ?_⟩
  rw [World.issues, hdrop]
  exact hfollows

theorem registers (h : w.Tracks id d name first history) (hr : w.Registers w') :
    w'.Tracks id d name first (history ++ w.issues w' id) :=
  h.inserted hr.dispatchers hr.tables

theorem step (h : w.Tracks id d name first history) (s : DispatcherStep) :
    (s.run id w).Tracks id { d with closed := d.closed || s.closes } name first (history ++ s.events id w) := by
  have hrest : s.closes = false → ({ d with closed := d.closed || s.closes } : Dispatcher) = d := by
    intro hs
    rw [hs, Bool.or_false]
  cases s with
  | lower v =>
    rw [hrest rfl]
    refine h.registers ?_
    rw [DispatcherStep.run, h.through_eq]
    exact d.lowerIn_registers v w
  | send s v =>
    rw [hrest rfl]
    refine h.registers ?_
    rw [DispatcherStep.run, h.through_eq]
    exact Dispatcher.send_registers s v w
  | dispatch m handle data initial =>
    rw [hrest rfl]
    refine h.inserted ?_ ?_
    · rw [DispatcherStep.run, h.through_eq]
      exact d.dispatch_dispatchers m handle data initial w
    · rw [DispatcherStep.run, h.through_eq]
      exact (World.Adds.dispatch d m handle data initial w).tables
  | free handle =>
    obtain ⟨t, ht, -, hf⟩ := h.entries
    obtain ⟨log, hfree⟩ := d.free_eq handle w
    rw [List.getD_eq_getElem?_getD, ht, Option.getD_some] at hfree
    rw [hrest rfl, DispatcherStep.run, h.through_eq, after_of_ok hfree]
    exact ⟨h.there, _, Dispatcher.setTable_table ht _, hf.remove handle⟩
  | close =>
    obtain ⟨t, ht, -, hf⟩ := h.entries
    rw [DispatcherStep.run, h.through_eq, after_of_ok (Dispatcher.close_eq h.there ht), DispatcherStep.closes,
      Bool.or_true]
    refine ⟨?_, _, Dispatcher.setTable_table ht _, hf.clear⟩
    exact List.getElem?_set_self (List.getElem?_eq_some_iff.mp h.there).1

theorem run (h : w.Tracks id d name first history) (steps : List DispatcherStep) :
    (DispatcherStep.through id steps w).Tracks id { d with closed := d.closed || steps.any DispatcherStep.closes } name
      first (history ++ DispatcherStep.history id steps w) := by
  induction steps generalizing d history w with
  | nil =>
    rw [DispatcherStep.history, List.append_nil, List.any_nil, Bool.or_false]
    exact h
  | cons s rest ih =>
    have hr := ih (h.step s)
    rw [List.append_assoc, Bool.or_assoc, ← List.any_cons] at hr
    exact hr

theorem close_entries (h : w.Tracks id d name first history) : (DispatcherStep.close.run id w).entriesOf id = [] := by
  obtain ⟨t, ht, -, -⟩ := h.entries
  have hcleared : (DispatcherStep.close.run id w).registries[d.registry]? = some t.clear.2 := by
    rw [DispatcherStep.run, h.through_eq, after_of_ok (Dispatcher.close_eq h.there ht)]
    exact Dispatcher.setTable_table ht _
  exact World.entriesOf_eq (World.Traced.owners_getElem? (h.step .close).there) hcleared

/-- With an empty registry, nothing is issued unless an implementation is lowered. -/
theorem silent (h : w.Tracks id d name first history) (he : w.entriesOf id = []) {s : DispatcherStep}
    (hs : s.lowers = false) : (s.run id w).entriesOf id = [] ∧ issuedIn (s.events id w) = [] := by
  obtain ⟨t, ht, hentries, -⟩ := h.entries
  have hempty : t.entries = [] := hentries.symm.trans he
  -- after the step the dispatcher is there with its registry, so that is the one to look at
  have hafter {t' : HandleTable Value} (ht' : (s.run id w).registries[d.registry]? = some t') :
      (s.run id w).entriesOf id = t'.entries :=
    World.entriesOf_eq (World.Traced.owners_getElem? (h.step s).there) ht'
  cases s with
  | lower v => cases hs
  | send s v => cases hs
  | dispatch m handle data initial =>
    have hf : t.find? handle = none := by
      rw [HandleTable.find?, hempty]
      rfl
    obtain ⟨b, w', hd, hr⟩ := Dispatcher.dispatch_dead ht hf m data initial
    have hrun : (DispatcherStep.dispatch m handle data initial).run id w = w' := by
      rw [DispatcherStep.run, h.through_eq, after_of_ok hd]
    have hnone : ((DispatcherStep.dispatch m handle data initial).run id w).entriesOf id = [] := by
      rw [← hempty]
      apply hafter
      rw [hrun, hr.registries, ht]
    refine ⟨hnone, ?_⟩
    unfold DispatcherStep.events
    dsimp only
    rw [World.issues_of_eq (hnone.trans he.symm)]
    rfl
  | free handle =>
    obtain ⟨log, hfree⟩ := d.free_eq handle w
    rw [List.getD_eq_getElem?_getD, ht, Option.getD_some] at hfree
    have hcut : (t.remove handle).2.entries = [] := by
      rw [HandleTable.remove, hempty]
      rfl
    refine ⟨?_, rfl⟩
    rw [← hcut]
    apply hafter
    rw [DispatcherStep.run, h.through_eq, after_of_ok hfree]
    exact Dispatcher.setTable_table ht _
  | close => exact ⟨h.close_entries, rfl⟩

theorem silent_run (h : w.Tracks id d name first history) (he : w.entriesOf id = []) {steps : List DispatcherStep}
    (hs : ∀ s ∈ steps, s.lowers = false) :
    (DispatcherStep.through id steps w).entriesOf id = [] ∧ issuedIn (DispatcherStep.history id steps w) = [] := by
  induction steps generalizing d history w with
  | nil => exact ⟨he, rfl⟩
  | cons s rest ih =>
    obtain ⟨hfirst, hrest⟩ := List.forall_mem_cons.mp hs
    obtain ⟨hentries, hissued⟩ := h.silent he hfirst
    obtain ⟨hend, hlater⟩ := ih (h.step s) hentries hrest
    refine ⟨hend, ?_⟩
    rw [DispatcherStep.history, issuedIn_append, hissued, hlater]
    rfl

end World.Tracks

namespace Dispatcher

/-- How a dispatcher is some time after a close, given what had happened before it and what has happened since. -/
structure Closed (d : Dispatcher) (id : Nat) (name : String) (before since : List (HandleEvent Value)) (w : World) :
    Prop where
  marked : w.dispatchers[id]? = some { d with closed := true }
  /-- the registry holds what was entered since, and nothing else -/
  finds : ∃ t, w.registries[d.registry]? = some t ∧ ∀ handle, t.find? handle = holderIn since handle
  /-- the handles that were given before the close stand for nothing -/
  forgotten : ∀ handle ∈ issuedIn before, holderIn since handle = none
  /-- calls on handles that stand for nothing are refused -/
  refuses : ∀ m handle data initial, holderIn since handle = none →
    ∃ b w', dispatch { d with closed := true } m handle data initial w =
        .ok ⟨⟨CallStatus.unexpectedError, b⟩, initial.returned⟩ w' ∧
      Refused { d with closed := true } (unknownText handle name) w b w'
  /-- through the vtable as well, if there is one -/
  vtable : d.interface.method? CallbackInterface.freeName = none → ∀ m handle data initial,
    holderIn since handle = none → dispatchThroughVtable { d with closed := true } m handle data initial w =
      dispatch { d with closed := true } m handle data initial w
  /-- and frees of them only leave a line in the log -/
  ignores : ∀ handle, holderIn since handle = none →
    ∃ message, free { d with closed := true } handle w =
      .ok () { w with log := w.log ++ [⟨.debug, .callbacks, message⟩] }
  /-- no free is noted as critical, whatever its handle stands for -/
  calm : ∀ handle, ∃ lines, ((free { d with closed := true } handle).after w).log = w.log ++ lines ∧
    ∀ l ∈ lines, l.level = .debug

theorem closed_of_tracks {w : World} {id : Nat} {d : Dispatcher} {name : String} {n : Int}
    {before since : List (HandleEvent Value)}
    (h : w.Tracks id { d with closed := true } name n (before ++ .cleared :: since)) :
    d.Closed id name before since w := by
  obtain ⟨t, ht, -, hf⟩ := h.entries
  have hfinds (handle : Int) : t.find? handle = holderIn since handle := by
    rw [hf.entries, holderIn_later]
  have hdead {handle : Int} (hnone : holderIn since handle = none) (m : CallbackMethod) (data : Bytes)
      (initial : DispatchResult) :=
    dispatch_dead (d := { d with closed := true }) ht ((hfinds handle).trans hnone) m data initial
  refine ⟨h.there, ⟨t, ht, hfinds⟩, ?_, ?_, ?_, ?_, free_calm ht rfl⟩
  · intro handle hm
    have hn := hf.nodup
    rw [issuedIn_append] at hn
    rw [← holderIn_later before]
    -- the handle was given before, and no handle is given twice
    exact holderIn_cleared fun hlater => List.disjoint_of_nodup_append hn hm hlater
  · intro m handle data initial hnone
    rw [← hf.name]
    exact hdead hnone m data initial
  · intro hv m handle data initial hnone
    obtain ⟨b, w', hd, -⟩ := hdead hnone m data initial
    rw [dispatchThroughVtable_eq (d := { d with closed := true }) hv, hd]
  · intro handle hnone
    exact free_dead (d := { d with closed := true }) ht ((hfinds handle).trans hnone)

/-- After a close, whatever comes before and after it, a dispatcher finds only what was entered since, and refuses the
rest. As long as nothing is lowered the registry stays empty. -/
theorem close_lasts {w : World} {id : Nat} {d : Dispatcher} {name : String} {first : Int}
    {past : List (HandleEvent Value)} (hd : w.dispatchers[id]? = some d) (hf : d.Follows name first past w)
    (earlier later : List DispatcherStep) :
    d.Closed id name (past ++ DispatcherStep.history id earlier w)
        (DispatcherStep.history id later (DispatcherStep.closing id earlier w))
        (DispatcherStep.through id later (DispatcherStep.closing id earlier w)) ∧
      ((∀ s ∈ later, s.lowers = false) →
        (DispatcherStep.through id later (DispatcherStep.closing id earlier w)).entriesOf id = [] ∧ ∀ handle,
          holderIn (DispatcherStep.history id later (DispatcherStep.closing id earlier w)) handle = none) := by
  have hstart : w.Tracks id d name first past := ⟨hd, hf⟩
  have hclosing : (DispatcherStep.closing id earlier w).Tracks id { d with closed := true } name first
      (past ++ DispatcherStep.history id earlier w ++ [.cleared]) := by
    have h := (hstart.run earlier).step .close
    rwa [DispatcherStep.closes, Bool.or_true] at h
  constructor
  · apply closed_of_tracks (n := first)
    have h := hclosing.run later
    rwa [Bool.true_or, List.append_assoc, List.singleton_append] at h
  · intro hlater
    have hempty : (DispatcherStep.closing id earlier w).entriesOf id = [] := (hstart.run earlier).close_entries
    obtain ⟨hend, hissued⟩ := hclosing.silent_run hempty hlater
    refine ⟨hend, fun handle => ?_⟩
    cases hh : holderIn (DispatcherStep.history id later (DispatcherStep.closing id earlier w)) handle with
    | none => rfl
    | some v =>
      have hm := mem_issuedIn_of_holderIn hh
      rw [hissued] at hm
      cases hm

/-- A world with a dispatcher of one method, and an implementation that counts its calls. -/
def countingWorld : World :=
  { bellWorld with registries := [.new "Bell" 1], dispatchers := [bell] }

def ringing : CallbackMethod := ⟨"ring", [.integer .int8], none, none, none⟩

/-- What was lowered before the close is refused after it, though another implementation was lowered since. -/
theorem close_lasts_ringer :
    countingWorld.dispatchers[0]? = some bell ∧ bell.Follows "Bell" 1 [] countingWorld ∧
      ∃ b w', dispatch { bell with closed := true } ringing 1 [7] ⟨.fresh, .null⟩
        (DispatcherStep.through 0 [.lower ringer] (DispatcherStep.closing 0 [.lower ringer] countingWorld)) =
          .ok ⟨⟨CallStatus.unexpectedError, b⟩, .null⟩ w' ∧
        w'.callsOf 0 "ring" = 0 := by
  have hd : countingWorld.dispatchers[0]? = some bell := rfl
  have hf : bell.Follows "Bell" 1 [] countingWorld := ⟨_, rfl, .new "Bell" 1⟩
  refine ⟨hd, hf, ?_⟩
  obtain ⟨hclosed, -⟩ := close_lasts hd hf [.lower ringer] [.lower ringer]
  have hnone := hclosed.forgotten 1 List.mem_cons_self
  obtain ⟨b, w', hr, hrefused⟩ := hclosed.refuses ringing 1 [7] ⟨.fresh, .null⟩ hnone
  refine ⟨b, w', hr, ?_⟩
  rw [World.callsOf, hrefused.implementations]
  rfl

/-- An implementation that is lowered after the close is entered, and a call reaches it. -/
theorem closed_registers_again :
    (DispatcherStep.through 0 [.lower ringer] (DispatcherStep.closing 0 [.lower ringer] countingWorld)).entriesOf 0 =
        [(2, ringer)] ∧
      ∃ w', dispatch { bell with closed := true } ringing 2 [7] ⟨.fresh, .null⟩
        (DispatcherStep.through 0 [.lower ringer] (DispatcherStep.closing 0 [.lower ringer] countingWorld)) =
          .ok ⟨⟨CallStatus.success, .null⟩, .null⟩ w' ∧
        w'.callsOf 0 "ring" = 1 :=
  ⟨rfl, _, rfl, rfl⟩

end Dispatcher

end ForeignBridge
