import ForeignBridge.Proofs.Callback.Escape
import ForeignBridge.Proofs.Memory.Accounts

/-!
What the native side finds after a call: one of four verdicts, each with the buffers that belong to it, whichever
copies fail. All buffers that a dispatch made and that are still live are in its answer, but for those that came with
outcomes which settling does not release.
-/

namespace ForeignBridge

open Act Failure

/-- The numbers of the buffers in an answer. -/
def DispatchResult.buffers (r : DispatchResult) : List Nat := r.status.error.data.toList ++ r.returned.data.toList

namespace Dispatcher

variable {d : Dispatcher} {m : CallbackMethod} {handle : Int} {data : Bytes} {w w' : World} {f : Failure}

/-! ### Accounts -/

theorem lower_accounts (a : Allocator) {s : Shape} (hp : s.isPlain) (v : Value) :
    (a.lower noObjects s v).Accounts a Allocator.given := by
  intro w hf
  rw [Shape.lower_eq hp]
  cases s.encode v with
  | ok sent => exact a.copy_accounts sent w hf
  | error g => exact .of_eq hf rfl rfl

theorem expectBuffer_accounts {a : Allocator} {x : Act (Option Buffer)} (hx : x.Accounts a Allocator.given) :
    (x >>= expectBuffer).Accounts a (·.data.toList) := by
  intro w hf
  have h := hx w hf
  cases hr : x w with
  | ok found v =>
    rw [hr] at h
    rw [bind_of_ok hr]
    cases found with
    | some b => exact h
    | none => exact h
  | error g v =>
    rw [hr] at h
    rw [bind_of_error hr]
    exact h

theorem perform_accounts (d : Dispatcher) (hp : ∀ s, m.returns = some s → s.isPlain) (handle : Int) (data : Bytes) :
    (d.perform m handle data).Accounts d.allocator (·.data.toList) := by
  rw [perform_eq]
  refine .bind (.of_keeps (calling_keeps (fun _ _ => rfl) d m handle data)) fun v => ?_
  cases hm : m.returns with
  | none => exact .pure rfl
  | some s => exact expectBuffer_accounts (lower_accounts d.allocator (hp s hm) v)

theorem report_accounts {make : Act (Option Buffer)} (hm : make.Accounts d.allocator Allocator.given) (code : Int)
    (codeName : String) : (d.report code codeName make).Accounts d.allocator (·.error.data.toList) := by
  intro w hf
  have h := expectBuffer_accounts hm w hf
  unfold report
  cases hr : (make >>= expectBuffer) w with
  | ok b v =>
    rw [hr] at h
    exact h
  | error g v =>
    rw [hr] at h
    dsimp only
    split_ifs
    · exact h
    · exact h.trans (.of_eq h.frees rfl rfl)

theorem reportFailure_accounts (d : Dispatcher) (m : CallbackMethod) (f : Failure) :
    (d.reportFailure m f).Accounts d.allocator (·.error.data.toList) := by
  cases hd : declared? m f with
  | error g =>
    unfold reportFailure
    rw [hd]
    exact .throw g
  | ok found =>
    cases found with
    | some declared =>
      obtain ⟨s, e⟩ := declared
      have hplain : s.isPlain := isPlain_of_handles (declared?_eq_some hd).2.2
      unfold reportFailure
      rw [hd]
      exact report_accounts (lower_accounts d.allocator hplain e) _ _
    | none =>
      intro w hf
      obtain ⟨log, hreport⟩ := reportFailure_noted (d := d) hd w
      let noted : World := { w with log := log }
      have hmake : (do d.allocator.copy (← ofExcept (Failure.ofEncoding s!"{f.className}: {f.message}"))
          : Act (Option Buffer)).Accounts d.allocator Allocator.given :=
        .bind (.ofExcept _ fun _ => rfl) fun sent => d.allocator.copy_accounts sent
      have htell : (do ofExcept f.ofTelling; d.report _ _ _ : Act CallStatus).Accounts d.allocator
          (·.error.data.toList) :=
        .bind (.ofExcept _ fun _ => rfl) fun _ => report_accounts hmake CallStatus.unexpectedError "UNEXPECTED_ERROR"
      rw [hreport]
      exact .after (v := noted) (.of_eq hf rfl rfl) (htell noted hf)

theorem perform_null (hm : m.returns = none) {b : Buffer} (h : d.perform m handle data w = .ok b w') : b = .null := by
  rw [perform_eq, hm] at h
  obtain ⟨v, w₁, -, hb⟩ := bind_eq_ok h
  cases hb
  rfl

theorem answering_accounts (d : Dispatcher) (m : CallbackMethod) (f : Failure) :
    (d.answering m ⟨.fresh, .null⟩ (.error f)).Accounts d.allocator DispatchResult.buffers := by
  have hreport : (d.reportFailure m f).Accounts d.allocator fun s => DispatchResult.buffers ⟨s, .null⟩ := by
    simp only [DispatchResult.buffers, Buffer.null, Option.toList_none, List.append_nil]
    exact d.reportFailure_accounts m f
  unfold answering
  by_cases hu : f.family = .unwinding
  · simp only [hu, if_true]
    exact .bind (.throw f) fun _ => .map hreport
  · simp only [hu, if_false]
    exact .map hreport

/-- After a dispatch the new buffers are those in its answer, and those that stray. -/
theorem dispatch_accounts (d : Dispatcher) (hp : ∀ s, m.returns = some s → s.isPlain) (handle : Int) (data : Bytes) :
    (d.dispatch m handle data ⟨.fresh, .null⟩).Accounts d.allocator DispatchResult.buffers := by
  intro w hf
  obtain ⟨log, hstart⟩ := dispatch_noted (d := d) m handle data ⟨.fresh, .null⟩ w
  let noted : World := { w with log := log }
  rw [hstart]
  refine .after (v := noted) (.of_eq hf rfl rfl) ?_
  have haccounts := d.perform_accounts hp handle data noted hf
  cases hperform : d.perform m handle data noted with
  | ok b w₁ =>
    rw [hperform] at haccounts
    rw [attempt_of_ok hperform]
    change World.Accounts d.allocator noted (if m.returns.isSome then b else .null : Buffer).data.toList w₁
    cases hm : m.returns with
    | none =>
      rw [perform_null hm hperform] at haccounts
      exact haccounts
    | some s => exact haccounts
  | error f w₁ =>
    rw [hperform] at haccounts
    rw [attempt_of_error hperform]
    exact .after haccounts (d.answering_accounts m f w₁ haccounts.frees)

/-! ### Verdicts -/

/-- The implementation is called and what it does does not depend on the log. -/
theorem Calls.of_log {log : List LogEntry} {w₁ : World}
    (h : d.Calls m handle data { w with log := log } (.error f w₁)) : ∃ w₂, d.Calls m handle data w (.error f w₂) := by
  obtain ⟨impl, args, hfind, hargs, hcall⟩ := h
  obtain ⟨w', hlog, -, -⟩ := callAttribute_log impl m.implementedBy args w log
  rw [hlog] at hcall
  unfold Act.result at hcall
  cases hr : callAttribute impl m.implementedBy args w with
  | ok v w₂ =>
    rw [hr] at hcall
    cases hcall
  | error g w₂ =>
    rw [hr] at hcall
    cases hcall
    exact ⟨w₂, impl, args, hfind, hargs, hr⟩

/-- A call that cannot be performed fails as the implementation does, or without anything having been raised. -/
theorem perform_failed {w₁ : World} (h : d.perform m handle data w = .error f w₁) :
    d.Calls m handle data w (.error f w₁) ∨ f.Unraised := by
  rcases d.calling_reaches m handle data w with hc | ⟨-, g, hg, hc⟩
  · cases hcall : d.calling m handle data w with
    | error g v =>
      rw [hcall] at hc
      cases h.symm.trans (perform_of_error hcall)
      exact .inl hc
    | ok v w₂ =>
      rw [perform_eq, bind_of_ok hcall] at h
      cases hm : m.returns with
      | none =>
        rw [hm] at h
        cases h
      | some s =>
        rw [hm] at h
        exact .inr (((lower_unraised d.allocator s v).bind expectBuffer_unraised) w₂ f w₁ h)
  · cases h.symm.trans (perform_of_error hc)
    exact .inr hg

end Dispatcher

/-- What the native side is told. -/
inductive Verdict
  | success
  | declared
  | fault
  | bare
deriving DecidableEq

namespace Verdict

/-- The status code, and whether there is an error buffer. -/
def tag : Verdict → Int × Bool
  | success => (CallStatus.success, false)
  | declared => (CallStatus.declaredError, true)
  | fault => (CallStatus.unexpectedError, true)
  | bare => (CallStatus.unexpectedError, false)

/-- An answer with the status and the buffers of a verdict, and what came of the call as the verdict says. -/
def Fits (d : Dispatcher) (m : CallbackMethod) (handle : Int) (data : Bytes) (w : World) (r : DispatchResult)
    (w' : World) : Verdict → Prop
  | success => r.status = ⟨CallStatus.success, .null⟩ ∧ ∃ v w₁, d.Calls m handle data w (.ok v w₁) ∧
      match m.returns with
      | none => r.returned = .null
      | some s => ∃ sent, s.encode v = .ok sent ∧ w'.Holds r.returned sent
  | declared => r.status.code = CallStatus.declaredError ∧ r.returned = .null ∧
      ∃ e w₁ s sent, d.Calls m handle data w (.error (.raised e) w₁) ∧ m.errors = some s ∧ s.handles e = .ok true ∧
        s.encode e = .ok sent ∧ w'.Holds r.status.error sent
  | fault => r.status.code = CallStatus.unexpectedError ∧ r.returned = .null ∧
      ∃ f w₁, d.perform m handle data w = .error f w₁ ∧
        w'.Holds r.status.error (Utf8.encode s!"{f.className}: {f.message}")
  | bare => r = ⟨⟨CallStatus.unexpectedError, .null⟩, .null⟩ ∧ ∃ f w₁, d.perform m handle data w = .error f w₁

variable {d : Dispatcher} {m : CallbackMethod} {handle : Int} {data : Bytes} {w w' : World} {r : DispatchResult}
  {k k' : Verdict}

theorem Fits.tag_eq (h : k.Fits d m handle data w r w') : k.tag = (r.status.code, r.status.error.data.isSome) := by
  have hsome {b : Buffer} {sent : Bytes} (hb : w'.Holds b sent) : b.data.isSome = true := by
    obtain ⟨n, -, hn⟩ := hb.live
    rw [hn]
    rfl
  cases k with
  | success =>
    rw [h.1]
    rfl
  | declared =>
    obtain ⟨hcode, -, e, w₁, s, sent, -, -, -, -, hb⟩ := h
    rw [hcode, hsome hb]
    rfl
  | fault =>
    obtain ⟨hcode, -, f, w₁, -, hb⟩ := h
    rw [hcode, hsome hb]
    rfl
  | bare =>
    rw [h.1]
    rfl

theorem tag_injective (h : k.tag = k'.tag) : k = k' := by
  cases k <;> cases k' <;> first | rfl | exact absurd h (by decide)

/-- An answer fits one verdict at most. -/
theorem Fits.unique (h : k.Fits d m handle data w r w') (h' : k'.Fits d m handle data w r w') : k = k' :=
  tag_injective (h.tag_eq.trans h'.tag_eq.symm)

/-- A call that was performed is a success. -/
theorem fits_of_performed (hp : ∀ s, m.returns = some s → s.isPlain) {b : Buffer}
    (h : d.perform m handle data w = .ok b w') :
    success.Fits d m handle data w ⟨.fresh, if m.returns.isSome then b else .null⟩ w' := by
  rw [d.perform_eq] at h
  obtain ⟨v, w₁, hcall, hlower⟩ := bind_eq_ok h
  have hc : d.Calls m handle data w (.ok v w₁) := by
    rcases d.calling_reaches m handle data w with hc | ⟨-, f, -, hfail⟩
    · rwa [hcall] at hc
    · cases hcall.symm.trans hfail
  refine ⟨rfl, v, w₁, hc, ?_⟩
  cases hm : m.returns with
  | none => rfl
  | some s =>
    rw [hm] at hlower
    obtain ⟨found, w₂, hl, hb⟩ := bind_eq_ok hlower
    cases found with
    | none => cases hb
    | some c =>
      cases hb
      rw [Shape.lower_eq (hp s hm)] at hl
      cases he : s.encode v with
      | error g =>
        rw [he] at hl
        cases hl
      | ok sent =>
        rw [he] at hl
        exact ⟨sent, he, (d.allocator.copy_copied hl).holds⟩

/-- Whether something is declared can be found out if a method declares kinds of errors. -/
theorem declared?_returns (he : ∀ s, m.errors = some s → ∃ name kinds, s = .errors name kinds) (f : Failure) :
    ∃ found, Dispatcher.declared? m f = .ok found := by
  unfold Dispatcher.declared?
  cases hm : m.errors with
  | none => exact ⟨none, rfl⟩
  | some s =>
    obtain ⟨name, kinds, rfl⟩ := he s hm
    cases f.declared? with
    | none => exact ⟨none, rfl⟩
    | some e => cases e <;> exact ⟨_, rfl⟩

/-- What cannot be performed is answered, unless it is a request to stop or cannot be told. -/
theorem answer_of_failed (he : ∀ s, m.errors = some s → ∃ name kinds, s = .errors name kinds) {f : Failure}
    (hf : f.family ≠ .unwinding ∧ f.ofTelling = .ok ()) (h : d.perform m handle data w = .error f w') :
    ∃ k r w₁, d.answering m ⟨.fresh, .null⟩ (.error f) w' = .ok r w₁ ∧ Fits d m handle data w r w₁ k := by
  have hanswer : d.answering m ⟨.fresh, .null⟩ (.error f) w' =
      (do return ⟨← d.reportFailure m f, .null⟩ : Act DispatchResult) w' := by
    simp only [Dispatcher.answering, hf.1, if_false]
  rw [hanswer]
  obtain ⟨found, hd⟩ := declared?_returns he f
  cases found with
  | none =>
    obtain ⟨b, w₁, hreport, rfl | hb⟩ := d.reportFailure_fault hd hf.2 w'
    · exact ⟨bare, _, w₁, bind_of_ok hreport, rfl, f, w', h⟩
    · exact ⟨fault, _, w₁, bind_of_ok hreport, rfl, rfl, f, w', h, hb⟩
  | some pair =>
    obtain ⟨s, e⟩ := pair
    obtain ⟨rfl, hs, hhandles⟩ := Dispatcher.declared?_eq_some hd
    obtain ⟨b, sent, w₁, hencode, hcopied, hreport⟩ | ⟨w₁, hreport⟩ := d.reportFailure_declared hd w'
    · have hcalls : d.Calls m handle data w (.error (.raised e) w') := by
        rcases Dispatcher.perform_failed h with hc | hu
        · exact hc
        · cases hd.symm.trans (Dispatcher.declared?_of_unraised hu)
      exact ⟨declared, _, w₁, bind_of_ok hreport, rfl, rfl, e, w', s, sent, hcalls, hs, hhandles, hencode,
        hcopied.holds⟩
    · exact ⟨bare, _, w₁, bind_of_ok hreport, rfl, _, w', h⟩

end Verdict

namespace Dispatcher

/-- Whichever copies fail, a dispatch answers, and its answer fits just one verdict. The buffers that are live after it
are those before it, those in the answer, and as many as came with outcomes in place of copies that settling leaves
alone; there are no such outcomes unless the allocator is a library's. -/
theorem dispatch_verdict (d : Dispatcher) (m : CallbackMethod) (handle : Int) (data : Bytes) (w : World)
    (hreturns : ∀ s, m.returns = some s → s.isPlain)
    (herrors : ∀ s, m.errors = some s → ∃ name kinds, s = .errors name kinds)
    (hraised : ∀ f w₁, d.Calls m handle data w (.error f w₁) → f.family ≠ .unwinding ∧ f.ofTelling = .ok ())
    (hfrees : w.Frees) :
    ∃ log r w', d.dispatch m handle data ⟨.fresh, .null⟩ w = .ok r w' ∧
      (∃! k, Verdict.Fits d m handle data { w with log := log } r w' k) ∧
      ∃ used stray, w.faults.copy = used ++ w'.faults.copy ∧ (d.library = none → used = []) ∧
        w'.arena.live.Perm (w.arena.live ++ r.buffers ++ stray) ∧
        stray.length = used.countP (·.any NativeOutcome.strays) := by
  obtain ⟨log, hstart⟩ := dispatch_noted (d := d) m handle data ⟨.fresh, .null⟩ w
  let noted : World := { w with log := log }
  have hanswer : ∃ k r w', d.dispatch m handle data ⟨.fresh, .null⟩ w = .ok r w' ∧
      Verdict.Fits d m handle data noted r w' k := by
    rw [hstart]
    cases hperform : d.perform m handle data noted with
    | ok b w₁ =>
      rw [attempt_of_ok hperform]
      exact ⟨.success, _, w₁, rfl, Verdict.fits_of_performed hreturns hperform⟩
    | error f w₁ =>
      rw [attempt_of_error hperform]
      refine Verdict.answer_of_failed herrors ?_ hperform
      rcases perform_failed hperform with hc | hu
      · obtain ⟨w₂, hc⟩ := hc.of_log
        exact hraised f w₂ hc
      · exact ⟨hu.caught, hu.told⟩
  obtain ⟨k, r, w', hrun, hk⟩ := hanswer
  have haccounts := d.dispatch_accounts hreturns handle data w hfrees
  rw [hrun] at haccounts
  obtain ⟨used, stray, hused, hdirect, hlive, hstray⟩ := World.Accounts.balance haccounts
  refine ⟨log, r, w', hrun, ⟨k, hk, fun k' hk' => hk'.unique hk⟩, used, stray, hused, fun hd => hdirect ?_, hlive,
    hstray⟩
  rw [allocator, hd]

/-- The world of an alarm in which the first copy is refused. -/
def refusingWorld : World := { alarmWorld with arena := .new [1] }

/-- A fault that cannot be told leaves no buffer behind. -/
theorem dispatch_verdict_refused :
    ∃ r w', alarm.dispatch ring 2 [] ⟨.fresh, .null⟩ refusingWorld = .ok r w' ∧
      w'.arena.live.Perm (refusingWorld.arena.live ++ r.buffers) := by
  have hreturns : ∀ s, ring.returns = some s → s.isPlain := by
    rintro _ ⟨⟩
    rfl
  have hraised : ∀ f w₁, alarm.Calls ring 2 [] refusingWorld (.error f w₁) →
      f.family ≠ .unwinding ∧ f.ofTelling = .ok () := by
    rintro f w₁ ⟨impl, args, hfind, -⟩
    cases hfind
  obtain ⟨log, r, w', hrun, -, used, stray, -, hused, hlive, hstray⟩ :=
    alarm.dispatch_verdict ring 2 [] refusingWorld hreturns nofun hraised nofun
  rw [hused rfl] at hstray
  rw [List.length_eq_zero_iff.mp hstray, List.append_nil] at hlive
  exact ⟨r, w', hrun, hlive⟩

/-- A library reports a copy with a code that stands for nothing and an error buffer. The answer has no buffer, and
this one stays allocated. -/
theorem dispatch_strays :
    ∃ w', Dispatcher.dispatch { alarm with library := some "alarm" } ring 2 [] ⟨.fresh, .null⟩
        { alarmWorld with faults := ⟨[], [some ⟨3, .data [98, 111, 111, 109]⟩], []⟩ } =
          .ok ⟨⟨CallStatus.unexpectedError, .null⟩, .null⟩ w' ∧
      alarmWorld.arena.live = [] ∧ w'.arena.live = [1] :=
  ⟨_, rfl, rfl, rfl⟩

end Dispatcher

end ForeignBridge
