import ForeignBridge.Log.Line
import ForeignBridge.Proofs.Value.Names

/-!
What stands in a line of JSON. Extra data stands under its own name, and it takes the place of a field of the record
that has the same name; the message alone has a name that extra data cannot take. All of it is written in printable
ASCII, on one line.
-/

namespace ForeignBridge

namespace Json

open Ascii

theorem plain_unicodeEscapeText (n : Nat) : Plain (unicodeEscapeText n) :=
  plain_append.mpr ⟨by decide, plain_hexPadded 4 n⟩

theorem plain_escapedChar (c : Char) : Plain (escapedChar true c) := by
  unfold escapedChar
  extract_lets code
  split_ifs with hquote hslash hnewline hreturn htab hfeed hback hlow hhigh hcode
  · decide
  · decide
  · decide
  · decide
  · decide
  · decide
  · decide
  · exact plain_unicodeEscapeText _
  · intro d hd
    rw [Char.toString_eq_singleton, String.toList_singleton, List.mem_singleton] at hd
    subst hd
    exact ⟨by omega, by simpa using hhigh⟩
  · exact plain_unicodeEscapeText _
  · exact plain_append.mpr ⟨plain_unicodeEscapeText _, plain_unicodeEscapeText _⟩

theorem plain_quotedText (s : String) : Plain (quotedText .line s) := by
  refine plain_append.mpr ⟨plain_append.mpr ⟨by decide, plain_join fun t ht => ?_⟩, by decide⟩
  obtain ⟨c, -, rfl⟩ := List.mem_map.mp ht
  exact plain_escapedChar c

theorem plain_numberText (x : Double) : Plain (numberText x) := by
  unfold numberText
  split
  · decide
  · split <;> decide
  · exact x.plain_text

theorem plain_enclosed {opening closing : String} {items : List String} (depth : Nat) (ho : Plain opening)
    (hc : Plain closing) (hi : ∀ s ∈ items, Plain s) : Plain (enclosed .line depth opening closing items) := by
  have hnewline : ∀ depth, Plain (newline .line depth) := fun _ => (by decide : Plain "")
  unfold enclosed
  split_ifs
  · exact plain_append.mpr ⟨ho, hc⟩
  · simp only [plain_append]
    refine ⟨⟨⟨⟨ho, hnewline _⟩, plain_intercalate ?_ hi⟩, hnewline _⟩, hc⟩
    exact plain_append.mpr ⟨by decide, hnewline _⟩

mutual

/-- JSON of the style of log lines is printable ASCII, whatever is printed: what is not is escaped. -/
theorem plain_textAt (depth : Nat) : (v : Value) → Plain (textAt .line depth v)
  | .list items | .tuple items => by
    rw [textAt]
    exact plain_enclosed depth (by decide) (by decide) (plain_itemTexts (depth + 1) items)
  | .dict entries => by
    rw [textAt]
    exact plain_enclosed depth (by decide) (by decide) (plain_entryTexts (depth + 1) entries)
  | .null => by
    rw [textAt]
    decide
  | .bool b => by
    rw [textAt]
    cases b <;> decide
  | .int i => plain_int i
  | .float x => plain_numberText x
  | .text s | .halved s => plain_quotedText s
  | .bytes .. | .moment .. | .date .. | .span .. | .record .. | .member .. | .declared .. | .exception .. | .thing ..
  | .wrapper .. | .received .. | .implementation .. => plain_quotedText _

theorem plain_itemTexts (depth : Nat) : (items : List Value) → ∀ s ∈ itemTexts .line depth items, Plain s
  | [] => nofun
  | v :: rest => by
    rw [itemTexts]
    exact List.forall_mem_cons.mpr ⟨plain_textAt depth v, plain_itemTexts depth rest⟩

theorem plain_entryTexts (depth : Nat) :
    (entries : List (Value × Value)) → ∀ s ∈ entryTexts .line depth entries, Plain s
  | [] => nofun
  | (k, v) :: rest => by
    rw [entryTexts]
    refine List.forall_mem_cons.mpr ⟨?_, plain_entryTexts depth rest⟩
    exact plain_append.mpr ⟨plain_append.mpr ⟨plain_quotedText _, by decide⟩, plain_textAt depth v⟩

end

end Json

namespace LogRecord

variable {r : LogRecord} {name : String}

/-- What the extra data has under a name, which is what was put there last. -/
def extra? (r : LogRecord) (name : String) : Option Value := Value.lookup name r.extra.reverse

theorem hidden_of_allowed (h : name ∉ reservedNames) : name ∈ hiddenNames ↔ name = "taskName" := by
  simp only [reservedNames, List.mem_cons, not_or] at h
  simp only [hiddenNames, List.mem_cons]
  constructor
  · rintro (rfl | hmessage | hown)
    · rfl
    · exact (h.1 hmessage).elim
    · exact (h.2.2 hown).elim
  · intro hname
    exact .inl hname

theorem nodup_shownExtra (r : LogRecord) : (r.shownExtra.map Prod.fst).Nodup := by
  unfold shownExtra
  apply List.Nodup.sublist (List.Sublist.map Prod.fst List.filter_sublist)
  exact Value.nodup_foldl_put r.extra List.nodup_nil

theorem lookup_shownExtra (r : LogRecord) (name : String) :
    Value.lookup name r.shownExtra
      = (r.extra? name).filter fun v => !(hiddenNames.contains name || isPrivate name || saysNothing v) := by
  have hnodup : ((r.extra.foldl (fun found e => Value.put e.1 e.2 found) []).map Prod.fst).Nodup :=
    Value.nodup_foldl_put r.extra List.nodup_nil
  unfold shownExtra
  rw [Value.lookup_filter hnodup, Value.lookup_foldl_put]
  unfold extra?
  rw [Value.lookup, Option.or_none]

end LogRecord

namespace JsonLayout

variable {f : JsonLayout} {r : LogRecord} {name time message : String} {v : Value} {e : Option Value}

/-- The fields that every line has, as the record and the layout say them. -/
def coreMembers (f : JsonLayout) (r : LogRecord) (time message : String) : List (String × Value) :=
  [("timestamp", .text time), ("level", r.level), ("logger", r.logger), ("message", .text message),
    ("prefix", f.mark)]

/-- Whether a layout is to show a value that the extra data has under a name. -/
def Shows (f : JsonLayout) (r : LogRecord) (name : String) (v : Value) : Prop :=
  f.includeExtra = true ∧ r.extra? name = some v
    ∧ LogRecord.isPrivate name = false ∧ LogRecord.saysNothing v = false

/-! ### Fields of the record -/

theorem memberIf_names (present : Bool) (name : String) (v : Value) :
    List.Sublist ((memberIf present name v).map Prod.fst) [name] := by
  cases present with
  | true => exact .refl _
  | false => exact List.nil_sublist _

/-- The names of all fields that a line may have. -/
def fieldNames : List String :=
  ["timestamp", "level", "logger", "message", "prefix", "thread", "module", "function", "line"]

theorem ownMembers_names (f : JsonLayout) (r : LogRecord) (time message : String) :
    List.Sublist ((f.ownMembers r time message).map Prod.fst) fieldNames := by
  unfold ownMembers
  simp only [List.map_append]
  have hcore : List.Sublist ((f.coreMembers r time message).map Prod.fst)
      ["timestamp", "level", "logger", "message", "prefix"] := .refl _
  have hthread := memberIf_names (f.includeThread && r.thread.truthy) "thread"
    (if r.threadName.truthy then r.threadName else .text r.thread.shown)
  have hmodule := memberIf_names r.file.truthy "module" r.file
  have hfunction := memberIf_names (r.function.truthy && !r.function.same (.text "<module>")) "function" r.function
  have hline := memberIf_names r.line.truthy "line" r.line
  exact (((hcore.append hthread).append hmodule).append hfunction).append hline

theorem nodup_ownMembers (f : JsonLayout) (r : LogRecord) (time message : String) :
    ((f.ownMembers r time message).map Prod.fst).Nodup := by
  have hnames : fieldNames.Nodup := by decide
  exact hnames.sublist (f.ownMembers_names r time message)

theorem lookup_core {core : String × Value} (h : core ∈ f.coreMembers r time message) :
    Value.lookup core.1 (f.ownMembers r time message) = some core.2 := by
  apply Value.lookup_of_nodup (f.nodup_ownMembers r time message)
  unfold ownMembers
  simp only [List.append_assoc]
  exact List.mem_append_left _ h

/-! ### Extra data among them -/

/-- The fields of a record with the extra data put among them. -/
def filled (f : JsonLayout) (r : LogRecord) (time message : String) : List (String × Value) :=
  if f.includeExtra then r.shownExtra.foldl (fun ms e => Value.put e.1 e.2 ms) (f.ownMembers r time message)
  else f.ownMembers r time message

/-- What is written at last, if a record reports an error. -/
def withReport (e : Option Value) (ms : List (String × Value)) : List (String × Value) :=
  match e with
  | some e => Value.put "exception" (.text e.reportLine) ms
  | none => ms

theorem members_eq {t : Moment} (ht : r.time = .ok t) (hm : r.text = .ok message) (he : r.error = .ok e) :
    f.members r = .ok (withReport e (f.filled r (t.textWith "T") message)) := by
  unfold members
  rw [ht, hm, he]
  cases e <;> rfl

theorem nodup_withReport (f : JsonLayout) (r : LogRecord) (time message : String) (e : Option Value) :
    ((withReport e (f.filled r time message)).map Prod.fst).Nodup := by
  have hfilled : ((f.filled r time message).map Prod.fst).Nodup := by
    unfold filled
    split_ifs
    · exact Value.nodup_foldl_put _ (f.nodup_ownMembers r time message)
    · exact f.nodup_ownMembers r time message
  cases e with
  | some e => exact Value.nodup_put hfilled
  | none => exact hfilled

/-- Under a name that is not the report's stands the extra data that is shown, else what the record has. -/
theorem lookup_withReport (h : name = "exception" → e = none) :
    Value.lookup name (withReport e (f.filled r time message))
      = (if f.includeExtra then Value.lookup name r.shownExtra else none).or
          (Value.lookup name (f.ownMembers r time message)) := by
  have hreport : Value.lookup name (withReport e (f.filled r time message))
      = Value.lookup name (f.filled r time message) := by
    cases e with
    | none => rfl
    | some e =>
      have hname : name ≠ "exception" := by
        intro hname
        cases h hname
      exact (Value.lookup_put _ _ _ _).trans (if_neg hname)
  rw [hreport]
  unfold filled
  split_ifs
  · rw [Value.lookup_foldl_put, Value.lookup_reverse r.nodup_shownExtra]
  · rw [Option.none_or]

/-- Extra data that is to be shown stands under its own name, if the name is neither a task's nor that of a report. -/
theorem Shows.lookup (h : f.Shows r name v) (hallowed : ∀ x ∈ r.extra, x.1 ∉ LogRecord.reservedNames)
    (htask : name ≠ "taskName") (hreport : name = "exception" → e = none) :
    Value.lookup name (withReport e (f.filled r time message)) = some v := by
  obtain ⟨hextra, hv, hprivate, hsays⟩ := h
  have hm : (name, v) ∈ r.extra := List.mem_reverse.mp (Value.lookup_mem hv)
  have hhidden : LogRecord.hiddenNames.contains name = false := by
    simpa using mt (LogRecord.hidden_of_allowed (hallowed _ hm)).mp htask
  rw [lookup_withReport hreport, if_pos hextra, r.lookup_shownExtra, hv]
  simp only [Option.filter_some, hhidden, hprivate, hsays, Bool.or_self, Bool.not_false, if_true, Option.some_or]

theorem lookup_of_not_shows (h : ∀ v, ¬ f.Shows r name v) :
    (if f.includeExtra then Value.lookup name r.shownExtra else none) = none := by
  split_ifs with hextra
  · rw [r.lookup_shownExtra]
    cases hv : r.extra? name with
    | none => rfl
    | some v =>
      rw [Option.filter_some, if_neg]
      intro hshown
      simp only [Bool.not_eq_true', Bool.or_eq_false_iff] at hshown
      exact h v ⟨hextra, hv, hshown.1.2, hshown.2⟩
  · rfl

/-- The name of a task is never shown, not even where the extra data has it. -/
theorem lookup_taskName (f : JsonLayout) (r : LogRecord) (time message : String) (e : Option Value) :
    Value.lookup "taskName" (withReport e (f.filled r time message)) = none := by
  have hextra : Value.lookup "taskName" r.shownExtra = none := by
    have hcontains : LogRecord.hiddenNames.contains "taskName" = true := by decide
    rw [r.lookup_shownExtra]
    cases r.extra? "taskName" with
    | none => rfl
    | some v => simp only [Option.filter_some, hcontains, Bool.true_or, Bool.not_true, Bool.false_eq_true, if_false]
  have hown : Value.lookup "taskName" (f.ownMembers r time message) = none := by
    cases hl : Value.lookup "taskName" (f.ownMembers r time message) with
    | none => rfl
    | some a =>
      have hm : "taskName" ∈ fieldNames :=
        (f.ownMembers_names r time message).subset (List.mem_map_of_mem (Value.lookup_mem hl))
      exact absurd hm (by decide)
  have hname : "taskName" = "exception" → e = none := fun h => absurd h (by decide)
  rw [lookup_withReport hname, hextra, hown]
  split_ifs <;> rfl

/-- A field of the core is the record's own just if no other extra data is shown under its name. -/
theorem lookup_core_iff {core : String × Value} (h : core ∈ f.coreMembers r time message)
    (hallowed : ∀ x ∈ r.extra, x.1 ∉ LogRecord.reservedNames) :
    Value.lookup core.1 (withReport e (f.filled r time message)) = some core.2
      ↔ ∀ v, f.Shows r core.1 v → v = core.2 := by
  have hnames : ∀ name ∈ ["timestamp", "level", "logger", "message", "prefix"],
      name ≠ "taskName" ∧ name ≠ "exception" := by decide
  obtain ⟨htask, hexception⟩ := hnames core.1 (List.mem_map_of_mem h)
  have hshown : ∀ v, f.Shows r core.1 v → Value.lookup core.1 (withReport e (f.filled r time message)) = some v :=
    fun v hv => hv.lookup hallowed htask fun h => absurd h hexception
  constructor
  · intro hown v hv
    exact Option.some.inj ((hshown v hv).symm.trans hown)
  · intro hsame
    by_cases hv : ∃ v, f.Shows r core.1 v
    · obtain ⟨v, hv⟩ := hv
      rw [hshown v hv, hsame v hv]
    · rw [lookup_withReport fun h => absurd h hexception, lookup_of_not_shows (not_exists.mp hv), lookup_core h]
      rfl

/-- Fields that can be printed are a line. -/
theorem line_of_members {ms : List (String × Value)} (hm : f.members r = .ok ms)
    (hprintable : Json.unprintable? (.ofMembers ms) = none) : (LineLayout.json f).line r = .ok (.json ms) := by
  simp only [LineLayout.line, hm, bind, Except.bind, hprintable]
  rfl

/-- The line of a record that has a time, a message and, if it reports one, an error. Each name stands there once.
Extra data stands under its own name, unless the name is that of the report, or of a task, which is not shown. The
message is the record's own, and each other field of the core is so just if no extra data is shown under its name. -/
theorem members_of_record {t : Moment} (ht : r.time = .ok t) (hm : r.text = .ok message) (he : r.error = .ok e)
    (hallowed : ∀ x ∈ r.extra, x.1 ∉ LogRecord.reservedNames) :
    ∃ ms, f.members r = .ok ms
      ∧ (Json.unprintable? (.ofMembers ms) = none → (LineLayout.json f).line r = .ok (.json ms))
      ∧ (ms.map Prod.fst).Nodup
      ∧ (∀ core ∈ f.coreMembers r (t.textWith "T") message,
          Value.lookup core.1 ms = some core.2 ↔ ∀ v, f.Shows r core.1 v → v = core.2)
      ∧ Value.lookup "message" ms = some (.text message)
      ∧ (∀ name v, f.Shows r name v → name ≠ "taskName" → (name = "exception" → e = none) →
          Value.lookup name ms = some v)
      ∧ Value.lookup "taskName" ms = none
      ∧ ∀ report, e = some report → Value.lookup "exception" ms = some (.text report.reportLine) := by
  set ms := withReport e (f.filled r (t.textWith "T") message) with hms
  have hmembers : f.members r = .ok ms := members_eq ht hm he
  have hextra : ∀ name v, f.Shows r name v → name ≠ "taskName" → (name = "exception" → e = none) →
      Value.lookup name ms = some v := by
    intro name v hv hname hexception
    exact hv.lookup hallowed hname hexception
  have hcore : ∀ core ∈ f.coreMembers r (t.textWith "T") message,
      Value.lookup core.1 ms = some core.2 ↔ ∀ v, f.Shows r core.1 v → v = core.2 :=
    fun core hmem => lookup_core_iff hmem hallowed
  refine ⟨ms, hmembers, line_of_members hmembers, f.nodup_withReport r _ _ e, hcore, ?_, hextra, ?_, ?_⟩
  · have hmessage : ("message", Value.text message) ∈ f.coreMembers r (t.textWith "T") message := by
      simp [coreMembers]
    apply (hcore _ hmessage).mpr
    intro v hv
    have hm : ("message", v) ∈ r.extra := List.mem_reverse.mp (Value.lookup_mem hv.2.1)
    exact (hallowed _ hm List.mem_cons_self).elim
  · exact lookup_taskName f r _ _ e
  · rintro report rfl
    exact (Value.lookup_put _ _ _ _).trans (if_pos rfl)

/-! ### Lines of records as they are logged -/

/-- A record of a payment that failed, whose extra data says that it is an entry of another kind. -/
def payment : LogRecord :=
  { LogRecord.plain default "fireflyffi.audit" 40 (.text "unpaid")
      [("amount", .int 7), ("_card", .text "4711"), ("prefix", .text "other::log")] with
    error := .ok (some (.exception "RuntimeError" .ordinary "no money")) }

theorem payment_time : ∃ t, payment.time = .ok t := by
  have hok : payment.time.isOk = true := by decide +kernel
  cases ht : payment.time with
  | ok t => exact ⟨t, rfl⟩
  | error f =>
    rw [ht] at hok
    cases hok

theorem payment_allowed : ∀ x ∈ payment.extra, x.1 ∉ LogRecord.reservedNames := by decide

theorem members_of_record_payment :
    (∀ x ∈ payment.extra, x.1 ∉ LogRecord.reservedNames)
      ∧ ∃ ms, (standard false true).members payment = .ok ms
        ∧ Value.lookup "level" ms = some (.text "ERROR")
        ∧ Value.lookup "message" ms = some (.text "unpaid")
        ∧ Value.lookup "amount" ms = some (.int 7) := by
  obtain ⟨t, ht⟩ := payment_time
  obtain ⟨ms, hms, -, -, hcore, hmessage, hextra, -, -⟩ :=
    members_of_record (f := standard false true) ht rfl rfl payment_allowed
  refine ⟨payment_allowed, ms, hms, ?_, hmessage, ?_⟩
  · have hlevel : ("level", payment.level) ∈ (standard false true).coreMembers payment (t.textWith "T") "unpaid" := by
      simp [coreMembers]
    apply (hcore _ hlevel).mpr
    intro v hv
    cases hv.2.1
  · exact hextra _ _ ⟨rfl, rfl, by decide +kernel, rfl⟩ (by decide) (fun h => absurd h (by decide))

/-- Extra data can take the place of the mark that tells the entries of the runtime from others. -/
theorem mark_forged :
    ∃ ms, (standard false true).members payment = .ok ms
      ∧ Value.lookup "prefix" ms = some (.text "other::log") := by
  obtain ⟨t, ht⟩ := payment_time
  have hforged : (standard false true).Shows payment "prefix" (.text "other::log") :=
    ⟨rfl, rfl, by decide +kernel, rfl⟩
  refine ⟨_, members_eq ht rfl rfl, ?_⟩
  exact hforged.lookup payment_allowed (by decide) (fun h => absurd h (by decide))

end JsonLayout

end ForeignBridge
