import ForeignBridge.Callback.Dispatch
import ForeignBridge.Proofs.Memory.Serving
import ForeignBridge.Proofs.Text.Utf8
import ForeignBridge.Proofs.Wire.Words.Read
import ForeignBridge.Proofs.Wire.Words.Write

/-!
Both ends of a call into an implementation. One end writes a status and perhaps a buffer; the other end makes a
result, a declared error or a fault of them. They agree on what came of the call.
-/

namespace ForeignBridge

open Act Surrogate

/-- An error that may be raised: it is no request to stop, its text can be encoded, and the message of a declared
error is a text whose length a count holds. -/
structure Failure.Tellable (f : Failure) : Prop where
  told : f.ofTelling = .ok ()
  caught : f.family ≠ .unwinding
  whole : Whole s!"{f.className}: {f.message}"
  declared : ∀ kind message, f = .raised (.declared kind message) →
    ∃ s, message = .text s ∧ (Utf8.encode s).length ≤ maxLength

theorem Failure.Worded.tellable {f : Failure} (h : f.Worded) : f.Tellable where
  told := by
    cases f with
    | raised v => exact absurd rfl (h.notRaised v)
    | _ => rfl
  caught := by
    cases f with
    | raised v => exact absurd rfl (h.notRaised v)
    | _ => nofun
  whole := h.whole
  declared kind message hf := absurd hf (h.notRaised _)

/-- What an action comes to, whatever world it leaves. -/
def Act.result {α : Type} (x : Act α) (w : World) : Except Failure α :=
  match x w with
  | .ok a _ => .ok a
  | .error f _ => .error f

namespace CallbackMethod

/-- The kinds of errors that a method declares. -/
def kinds (m : CallbackMethod) : List String :=
  match m.errors with
  | some (.errors _ kinds) => kinds
  | _ => []

/-- What a failure of a call is to the caller: itself if its kind is declared, else a fault with its class and
text. -/
def reported (m : CallbackMethod) (f : Failure) : Except Failure CallOutcome :=
  match f.declared? with
  | some (.declared kind message) =>
    if kind ∈ m.kinds then .ok (.err (.declared kind message)) else .error (.panic s!"{f.className}: {f.message}")
  | _ => .error (.panic s!"{f.className}: {f.message}")

/-- What a call is to the caller: nothing, or the result as it comes out of its encoding; and of a failure, one of
the result's encoding included, what is reported. -/
def outcome (m : CallbackMethod) : Except Failure Value → Except Failure CallOutcome
  | .error f => m.reported f
  | .ok v =>
    match m.returns with
    | none => .ok (.ok .null)
    | some s =>
      match s.encode v with
      | .error f => m.reported f
      | .ok data => (s.decode data).map .ok

/-- A method of plain shapes whose names are without halves; its errors are kinds, as many as a count holds. -/
structure Crosses (m : CallbackMethod) : Prop where
  name : Whole m.name
  arguments : ∀ s ∈ m.arguments, s.isPlain ∧ s.Named
  returns : ∀ s, m.returns = some s → s.isPlain ∧ s.Named
  errors : ∀ s, m.errors = some s → ∃ name kinds, s = .errors name kinds ∧ kinds.length ≤ maxLength

end CallbackMethod

namespace Allocator

variable {w : World} {b : Buffer} {data : Bytes} {live : Nat}

/-- A declared error comes back from its buffer. -/
theorem settle_declared (a : Allocator) {s : Shape} (hp : s.isPlain) {e : Value} (hd : s.decode data = .ok e)
    (h : w.Serves (live + 1)) (hb : w.Holds b data) :
    ∃ w', a.settle (some s) ⟨CallStatus.declaredError, b⟩ w = .ok (some e) w' ∧ w'.Serves live := by
  obtain ⟨w', hs, hl⟩ := a.lift_serves hp h hb
  rw [hd] at hl
  exact ⟨w', (bind_of_ok hl).trans rfl, hs⟩

/-- The text of a fault comes back from its buffer. -/
theorem settle_unexpected (a : Allocator) (errors : Option Shape) {s : String} (hs : s ≠ "")
    (h : w.Serves (live + 1)) (hb : w.Holds b (Utf8.encode s)) :
    ∃ w', a.settle errors ⟨CallStatus.unexpectedError, b⟩ w = .error (.panic s) w' ∧ w'.Serves live := by
  obtain ⟨w', hl, hw⟩ := a.liftMessage_serves h hb
  rw [Utf8.decodeReplacing_encode] at hl
  have hlen : 0 < b.len := by
    have he := Utf8.length_le_encode s
    have hp : 0 < s.length := Nat.pos_of_ne_zero fun hz => hs (String.length_eq_zero_iff.mp hz)
    rw [hb.len]
    omega
  refine ⟨w', ?_, hw⟩
  change (if 0 < b.len then (do throw (.panic (← a.liftMessage b)) : Act (Option Value)) else _) w = _
  rw [if_pos hlen]
  exact (bind_of_ok hl).trans rfl

end Allocator

namespace Shape

/-- A declared error of a kind that a union of errors declares is encoded, and comes back. -/
theorem errors_restores (name : String) {kinds : List String} {kind text : String} (hk : kind ∈ kinds)
    (hn : kinds.length ≤ maxLength) (ht : (Utf8.encode text).length ≤ maxLength) :
    ∃ data, (errors name kinds).encode (.declared kind (.text text)) = .ok data ∧
      (errors name kinds).decode data = .ok (.declared kind (.text text)) := by
  have hc : (errors name kinds).check (.declared kind (.text text)) = .ok () := by
    have hl : text.length ≤ maxLength := (Utf8.length_le_encode text).trans ht
    simp [check, Check.errors, hk, Check.text, checkLength, hl]
  have hr := (errors name kinds).write_restores .none rfl _ hc ⟨hn, kind, .text text, rfl, ht⟩
  exact ⟨_, encode_of_restores hc hr, decode_of_restores hr⟩

end Shape

/-- Bytes left over are told with what was read. -/
theorem trailing_worded {what : String} (h : Whole what) (left : Int) : (Failure.trailing left (some what)).Worded := by
  refine .of_message rfl ?_
  unfold Failure.message
  dsimp only
  simp only [Wording.trailing, Option.bind_some, whole_append, and_assoc]
  refine ⟨whole_int _, by decide, ?_⟩
  split
  · decide
  · rename_i t ht
    unfold named at ht
    split at ht
    · cases ht
    · cases ht
      exact whole_append.mpr ⟨by decide, h⟩

namespace Dispatcher

variable {d : Dispatcher} {m : CallbackMethod} {w : World} {live : Nat}

/-- What the caller makes of an answer. -/
def conclude (d : Dispatcher) (m : CallbackMethod) (r : DispatchResult) : Act CallOutcome := do
  match ← d.allocator.settle m.errors r.status with
  | some e => return .err e
  | none =>
    match m.returns with
    | some s => return .ok (← d.allocator.lift s r.returned)
    | none => return .ok .null

/-- A call from its start to what the caller makes of it. -/
def exchange (d : Dispatcher) (m : CallbackMethod) (handle : Int) (data : Bytes) : Act CallOutcome := do
  d.conclude m (← d.dispatch m handle data ⟨.fresh, .null⟩)

/-- The part of a call in which the arguments are read and the implementation does its work. -/
def calling (d : Dispatcher) (m : CallbackMethod) (handle : Int) (data : Bytes) : Act Value := do
  let impl ← ofExcept ((← d.table).get handle)
  let args ← d.arguments m data
  callAttribute impl m.implementedBy args

/-- Lowering in a plain shape makes a buffer of the encoding, or fails as the encoding does. -/
theorem lower_serves (a : Allocator) {s : Shape} (hp : s.isPlain) (v : Value) (h : w.Serves live) :
    (∀ data, s.encode v = .ok data →
      ∃ b w', a.lower noObjects s v w = .ok (some b) w' ∧ w'.Serves (live + 1) ∧ w'.Holds b data) ∧
      ∀ f, s.encode v = .error f → a.lower noObjects s v w = .error f w := by
  have hs := Shape.send_plain hp noObjects v w
  constructor
  · intro data he
    rw [he] at hs
    obtain ⟨b, w', hw, hb⟩ := a.copy_serves h data
    exact ⟨b, w', (bind_of_ok hs).trans hw, hb⟩
  · intro f he
    rw [he] at hs
    exact bind_of_error hs

/-- A failure is one that a method declares, or it is reported as a fault. -/
theorem declared_or_fault (hm : m.Crosses) {f : Failure} (hf : f.Tellable) :
    (∃ name kinds kind text, f = .raised (.declared kind (.text text)) ∧ m.errors = some (.errors name kinds) ∧
      kind ∈ kinds ∧ kinds.length ≤ maxLength ∧ (Utf8.encode text).length ≤ maxLength) ∨
    declared? m f = .ok none ∧ m.reported f = .error (.panic s!"{f.className}: {f.message}") := by
  unfold declared? CallbackMethod.reported CallbackMethod.kinds
  cases he : m.errors with
  | none =>
    refine .inr ⟨rfl, ?_⟩
    split
    · simp
    · rfl
  | some s =>
    obtain ⟨name, kinds, rfl, hn⟩ := hm.errors s he
    cases hd : f.declared? with
    | none => exact .inr ⟨rfl, rfl⟩
    | some e =>
      obtain ⟨kind, message, rfl, rfl⟩ : ∃ kind message, f = .raised (.declared kind message) ∧
          e = .declared kind message := by
        unfold Failure.declared? at hd
        split at hd
        · cases hd
          exact ⟨_, _, rfl, rfl⟩
        · cases hd
      obtain ⟨text, rfl, ht⟩ := hf.declared kind message rfl
      by_cases hk : kind ∈ kinds
      · exact .inl ⟨name, kinds, kind, text, rfl, rfl, hk, hn, ht⟩
      · refine .inr ⟨?_, if_neg hk⟩
        simp [Shape.handles, hk]

/-- What is not declared is noted, and then told and reported as a fault. -/
theorem reportFailure_noted {f : Failure} (hd : declared? m f = .ok none) (w : World) :
    ∃ log, d.reportFailure m f w =
      (do
        ofExcept f.ofTelling
        d.report CallStatus.unexpectedError "UNEXPECTED_ERROR"
          (do d.allocator.copy (← ofExcept (Failure.ofEncoding s!"{f.className}: {f.message}"))) : Act CallStatus)
        { w with log := log } := by
  unfold reportFailure
  rw [hd]
  by_cases hc : f.family = .contract
  · apply Exists.intro
    refine (bind_of_ok (v := w) rfl).trans ?_
    simp only [hc, if_true]
    exact bind_of_ok rfl
  · apply Exists.intro
    refine (bind_of_ok (v := w) rfl).trans ?_
    simp only [hc, if_false]
    exact bind_of_ok rfl

theorem reportFailure_undeclared {f : Failure} (hd : declared? m f = .ok none) (ht : f.ofTelling = .ok ()) (w : World) :
    ∃ log, d.reportFailure m f w =
      d.report CallStatus.unexpectedError "UNEXPECTED_ERROR"
        (do d.allocator.copy (← ofExcept (Failure.ofEncoding s!"{f.className}: {f.message}"))) { w with log := log } := by
  obtain ⟨log, h⟩ := reportFailure_noted (d := d) hd w
  rw [ht] at h
  exact ⟨log, h.trans (bind_of_ok rfl)⟩

theorem report_ok {code : Int} {codeName : String} {make : Act (Option Buffer)} {b : Buffer} {w w' : World}
    (h : make w = .ok (some b) w') : d.report code codeName make w = .ok ⟨code, b⟩ w' := by
  have hb : (make >>= expectBuffer) w = .ok b w' := bind_of_ok h
  simp only [report, hb]

/-- An error that is declared is reported with its encoding, which the caller reads. -/
theorem declared_concludes {name kind text : String} {kinds : List String} (he : m.errors = some (.errors name kinds))
    (hk : kind ∈ kinds) (hn : kinds.length ≤ maxLength) (ht : (Utf8.encode text).length ≤ maxLength)
    (h : w.Serves live) (returned : Buffer) :
    ∃ w', w'.Serves live ∧
      (do d.conclude m ⟨← d.reportFailure m (.raised (.declared kind (.text text))), returned⟩ : Act CallOutcome) w =
        .ok (.err (.declared kind (.text text))) w' := by
  obtain ⟨data, henc, hdec⟩ := Shape.errors_restores name hk hn ht
  obtain ⟨b, w₁, hl, hs₁, hb⟩ := (lower_serves d.allocator (s := .errors name kinds) rfl _ h).1 data henc
  obtain ⟨w₂, hsettle, hs₂⟩ := d.allocator.settle_declared (s := .errors name kinds) rfl hdec hs₁ hb
  have hd : declared? m (.raised (.declared kind (.text text))) =
      .ok (some (.errors name kinds, .declared kind (.text text))) := by
    simp [declared?, he, Failure.declared?, Shape.handles, hk]
  have hr : d.reportFailure m (.raised (.declared kind (.text text))) w = .ok ⟨CallStatus.declaredError, b⟩ w₁ := by
    unfold reportFailure
    rw [hd]
    exact (bind_of_ok (v := w) rfl).trans (report_ok hl)
  rw [← he] at hsettle
  exact ⟨w₂, hs₂, (bind_of_ok hr).trans ((bind_of_ok hsettle).trans rfl)⟩

theorem telling_ne_empty (f : Failure) : s!"{f.className}: {f.message}" ≠ "" := by
  intro hz
  have hl := congrArg String.length hz
  simp only [String.length_append] at hl
  have hc : (toString ": ").length = 2 := by decide
  have he : "".length = 0 := by decide
  omega

/-- Any other failure is reported with its class and text, which the caller reads. -/
theorem fault_concludes {f : Failure} (hf : f.Tellable) (hd : declared? m f = .ok none) (h : w.Serves live)
    (returned : Buffer) :
    ∃ w', w'.Serves live ∧
      (do d.conclude m ⟨← d.reportFailure m f, returned⟩ : Act CallOutcome) w =
        .error (.panic s!"{f.className}: {f.message}") w' := by
  obtain ⟨log, hnote⟩ := reportFailure_undeclared (d := d) hd hf.told w
  have h₁ : World.Serves { w with log := log } live := h.of_eq rfl rfl
  obtain ⟨b, w₁, hc, hs₁, hb⟩ := d.allocator.copy_serves h₁ (Utf8.encode s!"{f.className}: {f.message}")
  obtain ⟨w₂, hsettle, hs₂⟩ := d.allocator.settle_unexpected m.errors (telling_ne_empty f) hs₁ hb
  have hreport : d.reportFailure m f w = .ok ⟨CallStatus.unexpectedError, b⟩ w₁ := by
    rw [hnote]
    apply report_ok
    rw [Failure.ofEncoding_whole hf.whole]
    exact hc
  exact ⟨w₂, hs₂, (bind_of_ok hreport).trans (bind_of_error hsettle)⟩

/-- A failure that is reported comes out as what it is to the caller. -/
theorem reportFailure_concludes (hm : m.Crosses) {f : Failure} (hf : f.Tellable) (h : w.Serves live)
    (returned : Buffer) :
    ∃ w', w'.Serves live ∧
      (do d.conclude m ⟨← d.reportFailure m f, returned⟩ : Act CallOutcome) w =
        (ofExcept (m.reported f) : Act CallOutcome) w' := by
  rcases declared_or_fault hm hf with ⟨name, kinds, kind, text, rfl, he, hk, hn, ht⟩ | ⟨hd, hr⟩
  · have ho : m.reported (.raised (.declared kind (.text text))) = .ok (.err (.declared kind (.text text))) := by
      simp [CallbackMethod.reported, CallbackMethod.kinds, Failure.declared?, he, hk]
    rw [ho]
    exact declared_concludes he hk hn ht h returned
  · rw [hr]
    exact fault_concludes hf hd h returned

theorem readArguments_gives (impls : Implementations) {shapes : List Shape}
    (h : ∀ s ∈ shapes, s.isPlain ∧ s.Named) : (readArguments impls shapes).Gives fun _ => True := by
  induction shapes with
  | nil => exact .pure trivial
  | cons s rest ih =>
    have hs := h s List.mem_cons_self
    refine .bind (s.read_gives impls hs.1 hs.2) fun v _ => ?_
    exact .bind (ih fun t ht => h t (List.mem_cons_of_mem s ht)) fun _ _ => .pure trivial

/-- The reading of all the arguments of a method. -/
def argumentsReading (d : Dispatcher) (m : CallbackMethod) (impls : Implementations) : Reading (List Value) := do
  let vs ← readArguments impls m.arguments
  let left ← Reading.remaining
  if left ≠ 0 then
    throw (.trailing left (some s!"{d.interface.name}.{m.name} arguments"))
  return vs

theorem argumentsReading_gives (hm : m.Crosses) (hi : Whole d.interface.name) (impls : Implementations) :
    (d.argumentsReading m impls).Gives fun _ => True := by
  refine .bind (readArguments_gives _ hm.arguments) fun vs _ => .bind .remaining fun left _ => ?_
  split
  · refine .bind (P := fun _ => True) (.throw (trailing_worded ?_ _)) fun _ _ => .pure trivial
    simp only [whole_append, and_assoc]
    exact ⟨hi, by decide, hm.name, by decide⟩
  · exact .pure trivial

theorem arguments_eq (m : CallbackMethod) (data : Bytes) (w : World) :
    d.arguments m data w = match d.argumentsReading m w.lookup (.ofBytes data) with
      | .ok args _ => .ok args w
      | .error f _ => .error f w := by
  refine (bind_of_ok (v := w) rfl).trans ?_
  change (readBytes (d.argumentsReading m w.lookup) data >>= fun r => pure r.1) w = _
  unfold readBytes
  cases d.argumentsReading m w.lookup (.ofBytes data) <;> rfl

/-- An implementation does its work whatever the log says, and leaves memory alone. -/
theorem callAttribute_log (impl : Value) (name : String) (args : List Value) (w : World) (log : List LogEntry) :
    ∃ w', callAttribute impl name args { w with log := log } =
        (ofExcept ((callAttribute impl name args).result w) : Act Value) w' ∧
      w'.arena = w.arena ∧ w'.faults = w.faults := by
  unfold callAttribute Act.result
  split
  · rename_i id _
    dsimp only
    split
    · exact ⟨_, rfl, rfl, rfl⟩
    · exact ⟨_, rfl, rfl, rfl⟩
  · split
    · exact ⟨_, rfl, rfl, rfl⟩
    · exact ⟨_, rfl, rfl, rfl⟩

variable {handle : Int} {impl : Value}

/-- What an implementation may do when it is called: it gives a value with names without halves, or it raises an
error that can be told. -/
structure Answers (r : Except Failure Value) : Prop where
  value : ∀ v, r = .ok v → v.Named
  failure : ∀ f, r = .error f → f.Tellable

theorem arguments_of_read {data : Bytes} {args : List Value} {r : Reader}
    (h : d.argumentsReading m w.lookup (.ofBytes data) = .ok args r) : d.arguments m data w = .ok args w := by
  rw [arguments_eq, h]

theorem calling_eq (hl : (w.registries.getD d.registry (.new "" 1)).get handle = .ok impl) (m : CallbackMethod)
    (data : Bytes) :
    d.calling m handle data w = (do callAttribute impl m.implementedBy (← d.arguments m data)) w := by
  unfold calling table
  simp only [bind_assoc]
  refine (bind_of_ok (v := w) rfl).trans ((bind_of_ok (v := w) rfl).trans ?_)
  rw [hl]
  exact bind_of_ok rfl

theorem calling_of_read (hl : (w.registries.getD d.registry (.new "" 1)).get handle = .ok impl) {data : Bytes}
    {args : List Value} {r : Reader} (h : d.argumentsReading m w.lookup (.ofBytes data) = .ok args r) :
    d.calling m handle data w = callAttribute impl m.implementedBy args w :=
  (calling_eq hl m data).trans (bind_of_ok (arguments_of_read h))

theorem calling_of_unread (hl : (w.registries.getD d.registry (.new "" 1)).get handle = .ok impl) {data : Bytes}
    {f : Failure} {r : Reader} (h : d.argumentsReading m w.lookup (.ofBytes data) = .error f r) :
    d.calling m handle data w = .error f w := by
  refine (calling_eq hl m data).trans (bind_of_error ?_)
  rw [arguments_eq, h]

/-- Up to the result, a call leaves memory alone. -/
theorem calling_answers (hm : m.Crosses) (hi : Whole d.interface.name)
    (hl : (w.registries.getD d.registry (.new "" 1)).get handle = .ok impl) (hs : w.Serves live)
    {data : Bytes} (hr : ∀ args, d.arguments m data w = .ok args w →
      Answers ((callAttribute impl m.implementedBy args).result w)) (log : List LogEntry) :
    Answers ((d.calling m handle data).result w) ∧
      ∃ w', d.calling m handle data { w with log := log } =
          (ofExcept ((d.calling m handle data).result w) : Act Value) w' ∧ w'.Serves live := by
  let noted : World := { w with log := log }
  have hn : (noted.registries.getD d.registry (.new "" 1)).get handle = .ok impl := hl
  change _ ∧ ∃ w', d.calling m handle data noted = _ ∧ _
  cases hx : d.argumentsReading m w.lookup (.ofBytes data) with
  | ok args r =>
    have hx' : d.argumentsReading m noted.lookup (.ofBytes data) = .ok args r := hx
    have hv : (d.calling m handle data).result w = (callAttribute impl m.implementedBy args).result w := by
      rw [Act.result, calling_of_read hl hx, Act.result]
    obtain ⟨w', hw, harena, hfaults⟩ := callAttribute_log impl m.implementedBy args w log
    rw [hv, calling_of_read hn hx']
    exact ⟨hr args (arguments_of_read hx), w', hw, hs.of_eq harena hfaults⟩
  | error f r =>
    have hx' : d.argumentsReading m noted.lookup (.ofBytes data) = .error f r := hx
    have hv : (d.calling m handle data).result w = .error f := by
      rw [Act.result, calling_of_unread hl hx]
    have hf := argumentsReading_gives hm hi w.lookup (.ofBytes data)
    rw [hx] at hf
    rw [hv, calling_of_unread hn hx']
    refine ⟨⟨nofun, fun g hg => ?_⟩, noted, rfl, hs.of_eq rfl rfl⟩
    cases hg
    exact Failure.Worded.tellable hf

theorem perform_eq (m : CallbackMethod) (handle : Int) (data : Bytes) :
    d.perform m handle data = (do
      let result ← d.calling m handle data
      match m.returns with
      | some s => expectBuffer (← d.allocator.lower noObjects s result)
      | none => return .null) := by
  refine ((bind_assoc _ _ _).trans (bind_congr fun _ => ?_)).symm
  refine (bind_assoc _ _ _).trans (bind_congr fun _ => ?_)
  exact bind_assoc _ _ _

/-- The answer to a call of the native side, from what came of performing it. -/
def answering (d : Dispatcher) (m : CallbackMethod) (initial : DispatchResult) :
    Except Failure Buffer → Act DispatchResult
  | .ok b =>
    let returned := if m.returns.isSome then b else initial.returned
    return ⟨⟨CallStatus.success, initial.status.error⟩, returned⟩
  | .error f => do
    if f.family = .unwinding then throw f
    return ⟨← d.reportFailure m f, initial.returned⟩

/-- A dispatch may be noted first; then the call is performed and answered. -/
theorem dispatch_noted (m : CallbackMethod) (handle : Int) (data : Bytes) (initial : DispatchResult) (w : World) :
    ∃ log, d.dispatch m handle data initial w =
      (World.attempt (d.perform m handle data) >>= d.answering m initial) { w with log := log } := by
  unfold dispatch
  by_cases hlog : d.logDispatch
  · apply Exists.intro
    rw [if_pos hlog]
    exact bind_of_ok rfl
  · exact ⟨w.log, congrFun (if_neg hlog) w⟩

theorem dispatch_eq (m : CallbackMethod) (handle : Int) (data : Bytes) (initial : DispatchResult) (w : World) :
    ∃ log,
      (∀ b w', d.perform m handle data { w with log := log } = .ok b w' →
        d.dispatch m handle data initial w =
          .ok ⟨⟨CallStatus.success, initial.status.error⟩, if m.returns.isSome then b else initial.returned⟩ w') ∧
      ∀ f w', d.perform m handle data { w with log := log } = .error f w' → f.family ≠ .unwinding →
        d.dispatch m handle data initial w =
          (do return ⟨← d.reportFailure m f, initial.returned⟩ : Act DispatchResult) w' := by
  obtain ⟨log, hstart⟩ := dispatch_noted (d := d) m handle data initial w
  refine ⟨log, fun b w' hp => ?_, fun f w' hp hf => ?_⟩
  · rw [hstart]
    have ha : World.attempt (d.perform m handle data) { w with log := log } = .ok (.ok b) w' := by
      simp only [World.attempt, hp]
    exact bind_of_ok ha
  · rw [hstart]
    have ha : World.attempt (d.perform m handle data) { w with log := log } = .ok (.error f) w' := by
      simp only [World.attempt, hp]
    refine (bind_of_ok ha).trans ?_
    simp only [answering, hf, if_false]

/-- A dispatch that comes down to the report of a failure is to the caller what is reported. -/
theorem exchange_of_failure (hm : m.Crosses) {f : Failure} {data : Bytes} {w₁ : World}
    (hd : d.dispatch m handle data ⟨.fresh, .null⟩ w =
      (do return ⟨← d.reportFailure m f, .null⟩ : Act DispatchResult) w₁)
    (hf : f.Tellable) (hs : w₁.Serves live) :
    ∃ w', w'.Serves live ∧ d.exchange m handle data w = (ofExcept (m.reported f) : Act CallOutcome) w' := by
  obtain ⟨w', hs', hw⟩ := reportFailure_concludes (d := d) hm hf hs .null
  refine ⟨w', hs', Eq.trans ?_ hw⟩
  refine (bind_of_eq hd (d.conclude m)).trans ?_
  simp only [bind_assoc, pure_bind]

/-- The two ends of a call agree: a result arrives as it comes out of its encoding, a declared error arrives as it
was raised, and any other failure, of the arguments, of the implementation or of the result's encoding, arrives as
a fault with its class and text. No buffer is left over. -/
theorem exchange_agrees (hm : m.Crosses) (hi : Whole d.interface.name)
    (hl : (w.registries.getD d.registry (.new "" 1)).get handle = .ok impl) (hs : w.Serves live)
    {data : Bytes} (hr : ∀ args, d.arguments m data w = .ok args w →
      Answers ((callAttribute impl m.implementedBy args).result w)) :
    ∃ w', w'.Serves live ∧ d.exchange m handle data w =
      (ofExcept (m.outcome ((d.calling m handle data).result w)) : Act CallOutcome) w' := by
  obtain ⟨log, hok, herror⟩ := dispatch_eq (d := d) m handle data ⟨.fresh, .null⟩ w
  obtain ⟨ha, w₁, hc, hs₁⟩ := calling_answers hm hi hl hs hr log
  have hp : d.perform m handle data { w with log := log } = _ := congrFun (perform_eq m handle data) _
  -- a failure at any point goes the same way
  have hfail : ∀ f w₂, d.perform m handle data { w with log := log } = .error f w₂ → f.Tellable → w₂.Serves live →
      ∃ w', w'.Serves live ∧ d.exchange m handle data w = (ofExcept (m.reported f) : Act CallOutcome) w' := by
    intro f w₂ hf ht hs₂
    exact exchange_of_failure hm (herror f w₂ hf ht.caught) ht hs₂
  cases hx : (d.calling m handle data).result w with
  | error f =>
    rw [hx] at hc
    exact hfail f w₁ (hp.trans (bind_of_error hc)) (ha.failure f hx) hs₁
  | ok v =>
    rw [hx] at hc
    have hv := ha.value v hx
    cases hret : m.returns with
    | none =>
      rw [hret] at hp
      have hd := hok .null w₁ (hp.trans (bind_of_ok hc))
      refine ⟨w₁, hs₁, (bind_of_ok hd).trans ?_⟩
      simp only [conclude, CallbackMethod.outcome, hret]
      exact bind_of_ok rfl
    | some s =>
      obtain ⟨hplain, hnamed⟩ := hm.returns s hret
      have hlow := lower_serves d.allocator hplain v hs₁
      rw [hret] at hp
      cases he : s.encode v with
      | error f =>
        have hw := Shape.encode_failsInWords hplain hnamed hv f he
        simp only [CallbackMethod.outcome, hret, he]
        exact hfail f w₁ (hp.trans ((bind_of_ok hc).trans (bind_of_error (hlow.2 f he)))) hw.tellable hs₁
      | ok bs =>
        obtain ⟨b, w₂, hb, hs₂, hholds⟩ := hlow.1 bs he
        have hd := hok b w₂ (hp.trans ((bind_of_ok hc).trans ((bind_of_ok hb).trans rfl)))
        obtain ⟨w', hs', hlift⟩ := d.allocator.lift_serves hplain hs₂ hholds
        refine ⟨w', hs', (bind_of_ok hd).trans ?_⟩
        simp only [conclude, CallbackMethod.outcome, hret, he, Option.isSome_some, if_true]
        refine (bind_of_ok (v := w₂) rfl).trans ?_
        cases hdec : s.decode bs with
        | ok a =>
          rw [hdec] at hlift
          exact bind_of_ok hlift
        | error f =>
          rw [hdec] at hlift
          exact bind_of_error hlift

/-- A dispatcher of an interface with one implementation. -/
def picker : Dispatcher :=
  { interface := ⟨"Picker", []⟩, registry := 0, logDispatch := false, library := none, installed := false,
    closed := false }

/-- A world in which the handle 1 stands for an implementation that sorts, picks and weighs. -/
def pickerWorld : World :=
  let half := Char.ofNat 0x10d800
  { World.new [] with
    registries := [⟨"Picker", 2, [(1, .implementation "P" 0 ["sort", "pick", "weigh"])]⟩]
    implementations := [⟨"P",
      [("sort", .method ⟨none, .returns (.int 5)⟩ 0 (.int 0)),
        ("pick", .method ⟨none, .returns (.member "Shade" (String.ofList ['x', half]) (.int 1))⟩ 0 (.int 0)),
        ("weigh", .method ⟨none, .raises (.declared "Refused" (.text "no"))⟩ 0 (.int 0))]⟩] }

/-- A method that refuses to weigh. -/
def weigh : CallbackMethod := ⟨"weigh", [.integer .int8], none, some (.errors "WeighError" ["Refused"]), none⟩

theorem pickerWorld_serves : pickerWorld.Serves 0 := ⟨nofun, nofun, nofun, rfl⟩

theorem exchange_agrees_weigh :
    weigh.Crosses ∧ Whole picker.interface.name ∧
      (pickerWorld.registries.getD picker.registry (.new "" 1)).get 1 =
        .ok (.implementation "P" 0 ["sort", "pick", "weigh"]) ∧
      pickerWorld.Serves 0 ∧
      (∀ args, picker.arguments weigh [7] pickerWorld = .ok args pickerWorld → Answers ((callAttribute
        (.implementation "P" 0 ["sort", "pick", "weigh"]) weigh.implementedBy args).result pickerWorld)) ∧
      ∃ w', w'.Serves 0 ∧
        picker.exchange weigh 1 [7] pickerWorld = .ok (.err (.declared "Refused" (.text "no"))) w' := by
  have hm : weigh.Crosses := by
    refine ⟨by decide, ?_, nofun, ?_⟩
    · intro s hs
      rw [List.mem_singleton.mp hs]
      exact ⟨rfl, trivial⟩
    · rintro s ⟨⟩
      exact ⟨_, _, rfl, by decide⟩
  have hr : ∀ args, picker.arguments weigh [7] pickerWorld = .ok args pickerWorld → Answers ((callAttribute
      (.implementation "P" 0 ["sort", "pick", "weigh"]) weigh.implementedBy args).result pickerWorld) := by
    intro args _
    refine ⟨nofun, ?_⟩
    rintro f ⟨⟩
    refine ⟨rfl, nofun, by decide, ?_⟩
    rintro kind message ⟨⟩
    exact ⟨"no", rfl, by decide⟩
  exact ⟨hm, by decide, rfl, pickerWorld_serves, hr, exchange_agrees hm (by decide) rfl pickerWorld_serves hr⟩

/-- A method without arguments that gives something of a shape. -/
def giving (name : String) (s : Shape) : CallbackMethod := ⟨name, [], some s, none, none⟩

/-- A union whose name has a half in it. -/
def halvedUnion : Shape := .union (String.ofList ['S', Char.ofNat 0x10d800]) (.cons "Up" .nil .nil)

/-- A half in the name of a shape, or in a name of the result, keeps the text of a failure from being encoded. -/
theorem exchange_fault_of_halved_name :
    pickerWorld.Serves 0 ∧
      (halvedUnion.isPlain ∧ (picker.calling (giving "sort" halvedUnion) 1 []).result pickerWorld = .ok (.int 5) ∧
        (picker.exchange (giving "sort" halvedUnion) 1 []).result pickerWorld = .error .faultWhileHandlingFault) ∧
      ∃ e : EnumType, (Shape.enumeration e).Named ∧
        (picker.calling (giving "pick" (.enumeration e)) 1 []).result pickerWorld =
          .ok (.member "Shade" (String.ofList ['x', Char.ofNat 0x10d800]) (.int 1)) ∧
        (picker.exchange (giving "pick" (.enumeration e)) 1 []).result pickerWorld =
          .error .faultWhileHandlingFault := by
  refine ⟨pickerWorld_serves, ⟨rfl, rfl, rfl⟩, ⟨"Color", [("red", .int 1)]⟩, ⟨by decide, ?_⟩, rfl, rfl⟩
  intro m hm
  rw [List.mem_singleton.mp hm]
  exact ⟨by decide, trivial⟩

end Dispatcher

end ForeignBridge
