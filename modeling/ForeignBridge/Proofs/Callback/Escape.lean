import ForeignBridge.Proofs.Callback.Calls
import ForeignBridge.Proofs.Exchange.Unraised
import ForeignBridge.Proofs.Memory.Bridge

/-!
How a call of the native side ends. The status says success only if the implementation returned and its result is in
the buffer. All failures are reported but those that get past the report, and these were raised by the
implementation; of them the native side, which comes through the vtable, is told nothing.
-/

namespace ForeignBridge

open Act Failure

/-- What gets past the report of a failure, if anything: a request to stop, or what goes wrong while the failure is
told, if it cannot be found out whether it is declared or if what was raised cannot be shown. -/
def CallbackMethod.escape? (m : CallbackMethod) (f : Failure) : Option Failure :=
  if f.family = .unwinding then some f
  else
    match Dispatcher.declared? m f with
    | .error g => some g
    | .ok (some _) => none
    | .ok none =>
      match f.ofTelling with
      | .error g => some g
      | .ok () => none

/-- A buffer in which a fault is told, or a null one. -/
def World.Tells (w : World) (b : Buffer) : Prop := b = .null ∨ ∃ text, w.Holds b (Utf8.encode text)

namespace Dispatcher

variable {d : Dispatcher} {m : CallbackMethod} {handle : Int} {data : Bytes} {initial : DispatchResult} {w : World}
  {f g : Failure}

theorem declared?_of_unraised (h : f.Unraised) : declared? m f = .ok none := by
  unfold declared?
  rw [h.undeclared]
  cases m.errors <;> rfl

theorem escape?_of_unraised (h : f.Unraised) : m.escape? f = none := by
  unfold CallbackMethod.escape?
  rw [if_neg h.caught, declared?_of_unraised h, h.told]

theorem declared?_eq_some {s : Shape} {e : Value} (h : declared? m f = .ok (some (s, e))) :
    f = .raised e ∧ m.errors = some s ∧ s.handles e = .ok true := by
  unfold declared? at h
  split at h
  · rename_i s' e' hs he
    have hf : f = .raised e' := by
      unfold Failure.declared? at he
      split at he
      · cases he
        rfl
      · cases he
    cases hh : s'.handles e' with
    | error g =>
      rw [hh] at h
      cases h
    | ok b =>
      rw [hh] at h
      cases b <;> cases h
      exact ⟨hf, hs, hh⟩
  · cases h

theorem isPlain_of_handles {s : Shape} {e : Value} {b : Bool} (h : s.handles e = .ok b) : s.isPlain := by
  cases s with
  | errors name kinds => rfl
  | _ => cases h

theorem escape?_eq_none (h : m.escape? f = none) : f.family ≠ .unwinding ∧
    ((∃ s e, declared? m f = .ok (some (s, e))) ∨ declared? m f = .ok none ∧ f.ofTelling = .ok ()) := by
  revert h
  fun_cases CallbackMethod.escape? m f with
  | case1 hu => exact nofun
  | case2 hu g hd => exact nofun
  | case3 hu declared hd => exact fun _ => ⟨hu, .inl ⟨_, _, hd⟩⟩
  | case4 hu hd g ht => exact nofun
  | case5 hu hd ht => exact fun _ => ⟨hu, .inr ⟨hd, ht⟩⟩

theorem escape?_eq_some (h : m.escape? f = some g) : f.family = .unwinding ∧ g = f ∨
    f.family ≠ .unwinding ∧ (declared? m f = .error g ∨ declared? m f = .ok none ∧ f.ofTelling = .error g) := by
  revert h
  fun_cases CallbackMethod.escape? m f with
  | case1 hu =>
    rintro ⟨⟩
    exact .inl ⟨hu, rfl⟩
  | case2 hu g' hd =>
    rintro ⟨⟩
    exact .inr ⟨hu, .inl hd⟩
  | case3 hu declared hd => exact nofun
  | case4 hu hd g' ht =>
    rintro ⟨⟩
    exact .inr ⟨hu, .inr ⟨hd, ht⟩⟩
  | case5 hu hd ht => exact nofun

/-! ### Reports -/

/-- A report gives a status: with the buffer, if it can be made, and else of a fault without one. -/
theorem report_cases {make : Act (Option Buffer)} (hm : make.FailsAs Unraised) (code : Int) (codeName : String)
    (w : World) :
    (∃ b w', make w = .ok (some b) w' ∧ d.report code codeName make w = .ok ⟨code, b⟩ w') ∨
      ∃ w', d.report code codeName make w = .ok ⟨CallStatus.unexpectedError, .null⟩ w' := by
  cases h : (make >>= expectBuffer) w with
  | ok b w' =>
    obtain ⟨found, v, hmake, hb⟩ := bind_eq_ok h
    cases found with
    | none => cases hb
    | some c =>
      cases hb
      exact .inl ⟨b, w', hmake, report_ok hmake⟩
  | error f w' =>
    have hf : f.Unraised := (hm.bind expectBuffer_unraised) w f w' h
    have hr : d.report code codeName make w = (do
        World.note .critical .callbacks s!"Failed to encode {codeName} for {d.interface.name} callback"
        return ⟨CallStatus.unexpectedError, .null⟩ : Act CallStatus) w' := by
      simp only [report, h, if_neg hf.caught]
    exact .inr ⟨_, hr.trans (bind_of_ok rfl)⟩

theorem reportFailure_declared {s : Shape} {e : Value} (h : declared? m f = .ok (some (s, e))) (w : World) :
    (∃ b sent w', s.encode e = .ok sent ∧ w.Copied b sent w' ∧
      d.reportFailure m f w = .ok ⟨CallStatus.declaredError, b⟩ w') ∨
      ∃ w', d.reportFailure m f w = .ok ⟨CallStatus.unexpectedError, .null⟩ w' := by
  have hplain : s.isPlain := isPlain_of_handles (declared?_eq_some h).2.2
  have hreport : d.reportFailure m f w =
      d.report CallStatus.declaredError "ERROR" (d.allocator.lower noObjects s e) w := by
    unfold reportFailure
    rw [h]
    exact bind_of_ok rfl
  rw [hreport]
  obtain ⟨b, w', hlower, hr⟩ | hr := report_cases (d := d) (lower_unraised d.allocator s e)
    CallStatus.declaredError "ERROR" w
  · rw [Shape.lower_eq hplain] at hlower
    cases he : s.encode e with
    | error g =>
      rw [he] at hlower
      cases hlower
    | ok sent =>
      rw [he] at hlower
      exact .inl ⟨b, sent, w', rfl, d.allocator.copy_copied hlower, hr⟩
  · exact .inr hr

/-- A fault is reported with its text, or without a buffer. -/
theorem reportFailure_fault (h : declared? m f = .ok none) (ht : f.ofTelling = .ok ()) (w : World) :
    ∃ b w', d.reportFailure m f w = .ok ⟨CallStatus.unexpectedError, b⟩ w' ∧
      (b = .null ∨ w'.Holds b (Utf8.encode s!"{f.className}: {f.message}")) := by
  let text := s!"{f.className}: {f.message}"
  have hmake : (do d.allocator.copy (← ofExcept (Failure.ofEncoding text)) : Act (Option Buffer)).FailsAs Unraised :=
    .bind (.ofExcept (ofEncoding_failsInWords _).unraised) fun sent => d.allocator.copy_unraised sent
  obtain ⟨log, hreport⟩ := reportFailure_undeclared (d := d) h ht w
  rw [hreport]
  obtain ⟨b, w', hcopy, hr⟩ | ⟨w', hr⟩ := report_cases (d := d) hmake CallStatus.unexpectedError
    "UNEXPECTED_ERROR" { w with log := log }
  · refine ⟨b, w', hr, .inr ?_⟩
    obtain ⟨sent, v, hsent, hcopy⟩ := bind_eq_ok hcopy
    unfold Failure.ofEncoding at hsent
    split at hsent <;> cases hsent
    exact (d.allocator.copy_copied hcopy).holds
  · exact ⟨.null, w', hr, .inl rfl⟩

/-! ### Answers -/

theorem answering_of_escape (d : Dispatcher) (initial : DispatchResult) (h : m.escape? f = some g) (w : World) :
    ∃ w', d.answering m initial (.error f) w = .error g w' := by
  unfold answering
  obtain ⟨hu, rfl⟩ | ⟨hu, hg⟩ := escape?_eq_some h
  · simp only [hu, if_true]
    exact ⟨w, bind_of_error rfl⟩
  · simp only [hu, if_false]
    obtain hd | ⟨hd, ht⟩ := hg
    · refine ⟨w, bind_of_error ?_⟩
      unfold reportFailure
      rw [hd]
      exact bind_of_error rfl
    · obtain ⟨log, hreport⟩ := reportFailure_noted (d := d) hd w
      rw [ht] at hreport
      exact ⟨{ w with log := log }, bind_of_error (hreport.trans (bind_of_error rfl))⟩

/-- A failure that does not escape is answered with a status that reports it. -/
theorem answering_of_caught (d : Dispatcher) (initial : DispatchResult) (h : m.escape? f = none) (w : World) :
    (∃ e s b sent w', f = .raised e ∧ m.errors = some s ∧ s.handles e = .ok true ∧ s.encode e = .ok sent ∧
      w.Copied b sent w' ∧
      d.answering m initial (.error f) w = .ok ⟨⟨CallStatus.declaredError, b⟩, initial.returned⟩ w') ∨
    ∃ b w', d.answering m initial (.error f) w = .ok ⟨⟨CallStatus.unexpectedError, b⟩, initial.returned⟩ w' ∧
      w'.Tells b := by
  obtain ⟨hu, hf⟩ := escape?_eq_none h
  have hanswer : d.answering m initial (.error f) w =
      (do return ⟨← d.reportFailure m f, initial.returned⟩ : Act DispatchResult) w := by
    simp only [answering, hu, if_false]
  rw [hanswer]
  obtain ⟨s, e, hd⟩ | ⟨hd, ht⟩ := hf
  · obtain ⟨rfl, hs, hh⟩ := declared?_eq_some hd
    obtain ⟨b, sent, w', he, hb, hr⟩ | ⟨w', hr⟩ := reportFailure_declared (d := d) hd w
    · exact .inl ⟨e, s, b, sent, w', rfl, hs, hh, he, hb, bind_of_ok hr⟩
    · exact .inr ⟨.null, w', bind_of_ok hr, .inl rfl⟩
  · obtain ⟨b, w', hr, hb⟩ := reportFailure_fault (d := d) hd ht w
    exact .inr ⟨b, w', bind_of_ok hr, hb.imp_right fun hholds => ⟨_, hholds⟩⟩

theorem answering_of_unraised (d : Dispatcher) (m : CallbackMethod) (initial : DispatchResult) (h : f.Unraised)
    (w : World) :
    ∃ b w', d.answering m initial (.error f) w = .ok ⟨⟨CallStatus.unexpectedError, b⟩, initial.returned⟩ w' ∧
      w'.Tells b := by
  have he : m.escape? f = none := escape?_of_unraised h
  obtain ⟨e, _, _, _, _, rfl, -⟩ | hfault := d.answering_of_caught initial he w
  · cases h
  · exact hfault

/-- The ways in which a call of the native side ends, told by what came of the implementation. -/
inductive Ends (d : Dispatcher) (m : CallbackMethod) (handle : Int) (data : Bytes) (initial : DispatchResult)
    (w : World) : EStateM.Result Failure World DispatchResult → Prop
  /-- the implementation returned, and the method gives nothing back -/
  | returned {v : Value} {w' : World} (hc : d.Calls m handle data w (.ok v w')) (hm : m.returns = none) :
    Ends d m handle data initial w (.ok ⟨⟨CallStatus.success, initial.status.error⟩, initial.returned⟩ w')
  /-- the implementation returned, and what was sent of its result is in the buffer -/
  | lowered {v : Value} {s : Shape} {sent : Bytes} {b : Buffer} {w₁ w₂ w' : World}
    (hc : d.Calls m handle data w (.ok v w₁)) (hm : m.returns = some s) (hs : s.send noObjects v w₁ = .ok sent w₂)
    (hb : w₂.Copied b sent w') :
    Ends d m handle data initial w (.ok ⟨⟨CallStatus.success, initial.status.error⟩, b⟩ w')
  /-- the implementation raised an error that the method declares, and its encoding is in the error buffer -/
  | declared {e : Value} {s : Shape} {sent : Bytes} {b : Buffer} {w₁ w' : World}
    (hc : d.Calls m handle data w (.error (.raised e) w₁)) (hm : m.errors = some s) (hh : s.handles e = .ok true)
    (hs : s.encode e = .ok sent) (hb : w₁.Copied b sent w') :
    Ends d m handle data initial w (.ok ⟨⟨CallStatus.declaredError, b⟩, initial.returned⟩ w')
  /-- a fault is reported: nothing was returned that could be put into a buffer, and nothing raised that escapes -/
  | fault {b : Buffer} {w' : World} (hb : w'.Tells b)
    (hr : ∀ v w₁, d.Calls m handle data w (.ok v w₁) →
      ∃ s, m.returns = some s ∧ ∀ b w₂, d.allocator.lower noObjects s v w₁ ≠ .ok (some b) w₂)
    (he : ∀ f w₁, d.Calls m handle data w (.error f w₁) → m.escape? f = none) :
    Ends d m handle data initial w (.ok ⟨⟨CallStatus.unexpectedError, b⟩, initial.returned⟩ w')
  /-- the implementation raised something that gets past the report -/
  | escaped {f g : Failure} {w₁ w' : World} (hc : d.Calls m handle data w (.error f w₁)) (he : m.escape? f = some g) :
    Ends d m handle data initial w (.error g w')

theorem perform_of_error {w' : World} (h : d.calling m handle data w = .error f w') :
    d.perform m handle data w = .error f w' := by
  rw [perform_eq]
  exact bind_of_error h

theorem ends_of_raised {w₁ : World} (hc : d.Calls m handle data w (.error f w₁)) :
    d.Ends m handle data initial w (d.answering m initial (.error f) w₁) := by
  cases he : m.escape? f with
  | some g =>
    obtain ⟨w', h⟩ := d.answering_of_escape initial he w₁
    rw [h]
    exact .escaped hc he
  | none =>
    obtain ⟨e, s, b, sent, w', rfl, hm, hh, hs, hb, h⟩ | ⟨b, w', h, hb⟩ :=
      d.answering_of_caught initial he w₁
    · rw [h]
      exact .declared hc hm hh hs hb
    · rw [h]
      refine .fault hb (fun v w₂ hv => ?_) fun f' w₂ hf => ?_
      · cases hc.unique hv
      · cases hc.unique hf
        exact he

theorem ends_of_returned {v : Value} {w₁ : World} (hc : d.Calls m handle data w (.ok v w₁))
    (hp : d.calling m handle data w = .ok v w₁) :
    d.Ends m handle data initial w ((World.attempt (d.perform m handle data) >>= d.answering m initial) w) := by
  have hperform : d.perform m handle data w = _ := (congrFun (perform_eq m handle data) w).trans (bind_of_ok hp)
  cases hm : m.returns with
  | none =>
    rw [hm] at hperform
    rw [attempt_of_ok hperform]
    have h : d.answering m initial (.ok .null) w₁ =
        .ok ⟨⟨CallStatus.success, initial.status.error⟩, initial.returned⟩ w₁ := by
      simp only [answering, hm]
      rfl
    rw [h]
    exact .returned hc hm
  | some s =>
    rw [hm] at hperform
    cases hb : (d.allocator.lower noObjects s v >>= expectBuffer) w₁ with
    | ok b w' =>
      rw [attempt_of_ok (hperform.trans hb)]
      obtain ⟨found, w₂, hl, he⟩ := bind_eq_ok hb
      obtain ⟨sent, w₃, hs, hcopy⟩ := bind_eq_ok hl
      cases found with
      | none => cases he
      | some c =>
        cases he
        have h : d.answering m initial (.ok b) w' =
            .ok ⟨⟨CallStatus.success, initial.status.error⟩, b⟩ w' := by
          simp only [answering, hm]
          rfl
        rw [h]
        exact .lowered hc hm hs (d.allocator.copy_copied hcopy)
    | error f w' =>
      rw [attempt_of_error (hperform.trans hb)]
      have hf : f.Unraised := ((lower_unraised d.allocator s v).bind expectBuffer_unraised) w₁ f w' hb
      obtain ⟨b, w'', h, htells⟩ := d.answering_of_unraised m initial hf w'
      rw [h]
      refine .fault htells (fun v' w₂ hv => ⟨s, hm, fun c w₃ hl => ?_⟩) fun f' w₂ hf' => ?_
      · cases hc.unique hv
        rw [bind_of_ok hl] at hb
        cases hb
      · cases hc.unique hf'

theorem dispatch_ends (d : Dispatcher) (m : CallbackMethod) (handle : Int) (data : Bytes) (initial : DispatchResult)
    (w : World) :
    ∃ log, d.Ends m handle data initial { w with log := log } (d.dispatch m handle data initial w) := by
  obtain ⟨log, hstart⟩ := dispatch_noted (d := d) m handle data initial w
  refine ⟨log, ?_⟩
  rw [hstart]
  let noted : World := { w with log := log }
  obtain hc | ⟨hn, f, hf, hp⟩ := d.calling_reaches m handle data noted
  · cases hp : d.calling m handle data noted with
    | ok v w₁ =>
      rw [hp] at hc
      exact ends_of_returned hc hp
    | error f w₁ =>
      rw [hp] at hc
      rw [attempt_of_error (perform_of_error hp)]
      exact ends_of_raised hc
  · obtain ⟨b, w', h, hb⟩ := d.answering_of_unraised m initial hf noted
    rw [attempt_of_error (perform_of_error hp), h]
    exact .fault hb (fun v w₁ hv => absurd hv (hn _)) fun f' w₁ hf' => absurd hf' (hn _)

/-- Through the vtable an answer is handed on, and what escapes leaves status and buffer as they were brought. -/
theorem dispatchThroughVtable_eq (hv : d.interface.method? CallbackInterface.freeName = none) (m : CallbackMethod)
    (handle : Int) (data : Bytes) (initial : DispatchResult) (w : World) :
    d.dispatchThroughVtable m handle data initial w = match d.dispatch m handle data initial w with
      | .ok r w' => .ok r w'
      | .error _ w' => .ok initial w' := by
  have hrequire : d.requireVtable w = .ok () w := by
    unfold requireVtable
    rw [hv]
    rfl
  refine (bind_of_ok hrequire).trans ?_
  cases h : d.dispatch m handle data initial w with
  | ok r w' => exact attempt_of_ok h
  | error f w' => exact attempt_of_error h

theorem free_returns (d : Dispatcher) (handle : Int) (w : World) : ∃ w', d.free handle w = .ok () w' := by
  obtain ⟨log, h⟩ := d.free_eq handle w
  exact ⟨_, h⟩

/-- Every call of the native side ends in one of these ways, whatever the implementation does and whichever buffers
cannot be made. The vtable hands on the answer, if there is one, and else leaves the status as it was brought. -/
theorem calls_end (d : Dispatcher) (m : CallbackMethod) (handle : Int) (data : Bytes) (initial : DispatchResult)
    (w : World) :
    (∃ log, d.Ends m handle data initial { w with log := log } (d.dispatch m handle data initial w)) ∧
      (d.interface.method? CallbackInterface.freeName = none →
        d.dispatchThroughVtable m handle data initial w = match d.dispatch m handle data initial w with
          | .ok r w' => .ok r w'
          | .error _ w' => .ok initial w') ∧
      ∃ w', d.free handle w = .ok () w' :=
  ⟨d.dispatch_ends m handle data initial w, fun hv => dispatchThroughVtable_eq hv m handle data initial w,
    d.free_returns handle w⟩

/-- A request to stop, as an implementation may raise it. -/
def interrupt : Value := .exception "KeyboardInterrupt" .unwinding "stop"

/-- An error that cannot be shown, as its message has a field without a value. -/
def unshowable : Value := .declared "Refused" (.record "R" [] [("x", none)])

def ring : CallbackMethod := ⟨"ring", [], some (.integer .int8), none, none⟩

def tune : CallbackMethod := ⟨"tune", [], none, none, none⟩

def alarm : Dispatcher :=
  { interface := ⟨"Alarm", [ring, tune]⟩, registry := 0, logDispatch := false, library := none, installed := false,
    closed := false }

/-- A world in which the handle 1 stands for an implementation that is stopped when it rings and refuses to be tuned. -/
def alarmWorld : World :=
  { World.new [] with
    registries := [⟨"Alarm", 2, [(1, .implementation "A" 0 ["ring", "tune"])]⟩]
    implementations := [⟨"A",
      [("ring", .method ⟨none, .raises interrupt⟩ 0 (.int 0)),
        ("tune", .method ⟨none, .raises unshowable⟩ 0 (.int 0))]⟩] }

theorem calls_end_alarm :
    alarm.interface.method? CallbackInterface.freeName = none ∧
      ∃ w', alarm.dispatchThroughVtable ring 2 [] ⟨.fresh, .null⟩ alarmWorld =
        .ok ⟨⟨CallStatus.unexpectedError, ⟨63, 63, some 1⟩⟩, .null⟩ w' := by
  obtain ⟨-, hv, -⟩ := alarm.calls_end ring 2 [] ⟨.fresh, .null⟩ alarmWorld
  exact ⟨rfl, _, hv rfl⟩

/-- A request to stop and an error that cannot be shown unwind, and to the native side both calls were successful. -/
theorem dispatch_lets_pass :
    (⟨.fresh, .null⟩ : DispatchResult).status.code = CallStatus.success ∧
      (∃ w', alarm.dispatch ring 1 [] ⟨.fresh, .null⟩ alarmWorld = .error (.raised interrupt) w' ∧
        alarm.dispatchThroughVtable ring 1 [] ⟨.fresh, .null⟩ alarmWorld = .ok ⟨.fresh, .null⟩ w') ∧
      ∃ w', alarm.dispatch tune 1 [] ⟨.fresh, .null⟩ alarmWorld = .error (.noAttribute "R" "x") w' ∧
        alarm.dispatchThroughVtable tune 1 [] ⟨.fresh, .null⟩ alarmWorld = .ok ⟨.fresh, .null⟩ w' :=
  ⟨rfl, ⟨_, rfl, rfl⟩, _, rfl, rfl⟩

end Dispatcher

end ForeignBridge
