import ForeignBridge.Proofs.Wire.Ends
import ForeignBridge.Proofs.Wire.Held
import ForeignBridge.Proofs.Wire.Width

/-!
What is written is read back, or the reading shows why not. The reader has limits of its own, which the writer does
not know: few elements that take no bytes, keys that can be hashed, and moments inside the calendar. Within
them a value is read back as its canonical form, and past them it is refused. The induction is on the shape; a
composite is read back just if its parts are, because its count is small enough for the bytes that follow it.
-/

namespace ForeignBridge

/-- A failure by which a reader refuses what a writer has written. -/
def Failure.IsUnreadable : Failure → Prop
  | .invalidValue (.zeroWidthCount ..) | .invalidValue (.timestampRange _) | .mismatch (.unhashable _) => True
  | _ => False

namespace Reading

variable {α β : Type} {x : Reading α} {f : α → Reading β} {bs cs : Bytes} {a : α}

/-- A reading refuses these bytes, whatever comes before and after them. -/
def Refuses (x : Reading α) (bs : Bytes) : Prop :=
  ∀ front back dropped, ∃ e r, x (.between front (bs ++ back) dropped) = .error e r ∧ e.IsUnreadable

namespace Refuses

theorem throw {e : Failure} (h : e.IsUnreadable) : (MonadExcept.throw e : Reading α).Refuses [] :=
  fun _ _ _ => ⟨e, _, rfl, h⟩

theorem bind_left (hx : x.Refuses bs) (cs : Bytes) : (x >>= f).Refuses (bs ++ cs) := by
  intro front back dropped
  obtain ⟨e, r, h, he⟩ := hx front (cs ++ back) dropped
  rw [List.append_assoc]
  exact ⟨e, r, bind_of_error h, he⟩

theorem bind_right (hx : x.Consumes bs a) (hf : (f a).Refuses cs) : (x >>= f).Refuses (bs ++ cs) := by
  intro front back dropped
  obtain ⟨e, r, h, he⟩ := hf (front ++ bs) back dropped
  rw [List.append_assoc]
  exact ⟨e, r, (bind_of_ok (hx front (cs ++ back) dropped)).trans h, he⟩

theorem orDrop (held : Unit → List Nat) (hx : x.Refuses bs) : (x.orDrop held).Refuses bs := by
  intro front back dropped
  obtain ⟨e, r, h, he⟩ := hx front back dropped
  exact ⟨e, _, by rw [Reading.orDrop, h], he⟩

end Refuses

end Reading

namespace Script

variable {α β : Type} {a b : Script} {x : Reading α} {f : α → Reading β} {u : α} {v : β} {P Q : Prop}

/-- A script that comes to its end, and of whose bytes a reading makes a value just if a condition holds. -/
structure RestoresIf (P : Prop) (s : Script) (x : Reading α) (u : α) : Prop where
  ends : s.failure = none
  reads : P → x.Consumes s.leadingBytes u
  refuses : ¬ P → x.Refuses s.leadingBytes

namespace RestoresIf

theorem restores (h : a.RestoresIf P x u) (hp : P) : a.Restores x u := ⟨h.ends, h.reads hp⟩

theorem of_restores (h : a.Restores x u) (hp : P) : a.RestoresIf P x u := ⟨h.1, fun _ => h.2, fun hn => absurd hp hn⟩

theorem congr (h : a.RestoresIf P x u) (hpq : P ↔ Q) : a.RestoresIf Q x u :=
  ⟨h.ends, fun hq => h.reads (hpq.mpr hq), fun hn => h.refuses (mt hpq.mp hn)⟩

theorem bind (hx : a.RestoresIf P x u) (hf : b.RestoresIf Q (f u) v) : (a ++ b).RestoresIf (P ∧ Q) (x >>= f) v where
  ends := (append_failure hx.ends).trans hf.ends
  reads h := by
    rw [append_leadingBytes hx.ends]
    exact (hx.reads h.1).bind (hf.reads h.2)
  refuses h := by
    rw [append_leadingBytes hx.ends]
    by_cases hp : P
    · exact .bind_right (hx.reads hp) (hf.refuses fun hq => h ⟨hp, hq⟩)
    · exact .bind_left (hx.refuses hp) _

/-- A step whose bytes are read in any case. -/
theorem behind (hx : a.Restores x u) (hf : b.RestoresIf Q (f u) v) : (a ++ b).RestoresIf Q (x >>= f) v :=
  ((of_restores hx trivial).bind hf).congr (and_iff_right trivial)

/-- A step that writes nothing. -/
theorem after (hf : b.RestoresIf Q (f u) v) (hx : x.Consumes [] u) : b.RestoresIf Q (x >>= f) v where
  ends := hf.ends
  reads h := by simpa using hx.bind (hf.reads h)
  refuses h := by simpa using Reading.Refuses.bind_right hx (hf.refuses h)

/-- A last step that takes no bytes. -/
theorem finish (hx : a.RestoresIf P x u) (hf : (f u).Consumes [] v) : a.RestoresIf P (x >>= f) v where
  ends := hx.ends
  reads h := by simpa using (hx.reads h).bind hf
  refuses h := by simpa using Reading.Refuses.bind_left (hx.refuses h) []

theorem orDrop (held : Unit → List Nat) (hx : a.RestoresIf P x u) : a.RestoresIf P (x.orDrop held) u :=
  ⟨hx.ends, fun h => (hx.reads h).orDrop held, fun h => (hx.refuses h).orDrop held⟩

end RestoresIf

end Script

open Script

/-- What the reader asks of a value that was written. -/
def Shape.Readable : Shape → Value → Prop
  | .timestamp, v =>
    ∀ t i, v = .moment t → t.instant? = some i → Calendar.firstInstant ≤ i ∧ i ≤ Calendar.lastInstant
  | .sequence inner, v => ∀ n, v.length? = some n → Carries.count n inner.minWidth
  | .map key value, v => ∀ entries, v = .dict entries →
      Carries.count entries.length (key.minWidth + value.minWidth) ∧
        ∀ e ∈ entries, (key.canon e.1).unhashable? = none
  | _, _ => True

/-! ### Composites are read back from their parts -/

/-- Elements are read back in order behind those already read, or the first that is not is noticed. -/
theorem elements_restoresIf {w : Value → Script} {x : Reading Value} {c : Value → Value} {P : Value → Prop}
    {items : List Value} (h : ∀ a ∈ items, (w a).RestoresIf (P a) x (c a)) (sofar : List Value) :
    (Script.all (items.map w)).RestoresIf (∀ a ∈ items, P a) (Read.elements x items.length sofar)
      (sofar.reverse ++ items.map c) := by
  induction items generalizing sofar with
  | nil =>
    rw [List.map_nil, List.map_nil, List.append_nil]
    exact .of_restores (.empty _) (by simp)
  | cons a rest ih =>
    have ha := (h a (by simp)).orDrop fun _ => sofar.flatMap Value.held
    have hr := ih (fun b hb => h b (by simp [hb])) (c a :: sofar)
    rw [List.reverse_cons, List.append_assoc, List.singleton_append] at hr
    exact (ha.bind hr).congr List.forall_mem_cons.symm

theorem addEntry_restoresIf {k : Value} (v : Value) {sofar : List (Value × Value)} (hs : heldInEntries sofar = []) :
    Script.empty.RestoresIf (k.unhashable? = none) (Read.addEntry k v sofar) (Value.insertEntry k v sofar) where
  ends := rfl
  reads h := addEntry_consumes h hs
  refuses h := by
    obtain ⟨name, hn⟩ := Option.ne_none_iff_exists'.mp h
    rw [Read.addEntry, hn]
    exact fun _ _ _ => ⟨_, _, rfl, trivial⟩

theorem entries_restoresIf {kw vw : Value → Script} {kx vx : Reading Value} {kc vc : Value → Value}
    {KP VP : Value → Prop} {entries : List (Value × Value)}
    (h : ∀ e ∈ entries, (kw e.1).RestoresIf (KP e.1) kx (kc e.1) ∧ (vw e.2).RestoresIf (VP e.2) vx (vc e.2))
    (hh : ∀ e ∈ entries, (kc e.1).held = [] ∧ (vc e.2).held = [])
    {sofar : List (Value × Value)} (hs : heldInEntries sofar = []) :
    (Script.all (entries.map fun e => kw e.1 ++ vw e.2)).RestoresIf
      (∀ e ∈ entries, KP e.1 ∧ VP e.2 ∧ (kc e.1).unhashable? = none) (Read.entries kx vx entries.length sofar)
      ((entries.map fun e => (kc e.1, vc e.2)).foldl (fun es e => Value.insertEntry e.1 e.2 es) sofar) := by
  induction entries generalizing sofar with
  | nil => exact .of_restores (.empty _) (by simp)
  | cons e rest ih =>
    have he := h e (by simp)
    have heh := hh e (by simp)
    have hr := ih (fun e hm => h e (by simp [hm])) (fun e hm => hh e (by simp [hm]))
      (Value.heldInEntries_insertEntry heh.1 heh.2 hs)
    have hkey := he.1.orDrop fun _ => heldInEntries sofar
    have hvalue := he.2.orDrop fun _ => heldInEntries sofar ++ (kc e.1).held
    have hadd := addEntry_restoresIf (k := kc e.1) (vc e.2) hs
    rw [List.map_cons, Script.all, append_assoc]
    refine (hkey.bind (hvalue.bind (hadd.bind hr))).congr ?_
    rw [List.forall_mem_cons, and_assoc, and_assoc]

/-- A count passes just if it is small enough, where the bytes of so many elements follow it. -/
theorem checkCount_restoresIf {β : Type} {x : Reading β} {b : β} {s : Script} {P : Prop} {count width : Nat}
    (hx : s.RestoresIf P x b) (hw : count * width ≤ s.leadingBytes.length) (typeName : String) :
    s.RestoresIf (Carries.count count width ∧ P) (do Read.checkCount count width typeName; x) b where
  ends := hx.ends
  reads h := by
    intro front back dropped
    obtain ⟨-, -, hc⟩ | ⟨hl, -⟩ | ⟨hz, hm, -⟩ :=
      Read.checkCount_cases count width typeName front (s.leadingBytes ++ back) dropped
    · exact (Reading.bind_of_ok hc).trans (hx.reads h.2 front back dropped)
    · rw [List.length_append] at hl
      omega
    · exact absurd (h.1 hz) (Nat.not_le.mpr hm)
  refuses h := by
    intro front back dropped
    obtain ⟨-, hz, hc⟩ | ⟨hl, -⟩ | ⟨-, -, hc⟩ :=
      Read.checkCount_cases count width typeName front (s.leadingBytes ++ back) dropped
    · obtain ⟨e, r, he, hu⟩ := hx.refuses (fun hp => h ⟨hz, hp⟩) front back dropped
      exact ⟨e, r, (Reading.bind_of_ok hc).trans he, hu⟩
    · rw [List.length_append] at hl
      omega
    · exact ⟨_, _, Reading.bind_of_error hc, trivial⟩

theorem optional_restoresIf {P : Prop} {inner : Script} {x : Reading Value} {a : Value} (hx : inner.RestoresIf P x a)
    (typeName : String) :
    (Script.raw [1] ++ inner).RestoresIf P
      (do
        let flag ← Reading.int .u8
        if flag = 0 then return .null
        if flag = 1 then x
        else throw (.invalidValue (.badPresence flag.toNat typeName))) a :=
  RestoresIf.behind (Restores.raw (.int rfl)) hx

theorem sequence_restoresIf {w : Value → Script} {x : Reading Value} {c : Value → Value} {P : Value → Prop}
    {items : List Value} {width : Nat} (hi : ∀ a ∈ items, (w a).RestoresIf (P a) x (c a))
    (hw : ∀ a ∈ items, (w a).AtLeast width) (hl : items.length ≤ maxLength) (typeName : String) :
    (countBytes items.length ++ Script.all (items.map w)).RestoresIf
      (Carries.count items.length width ∧ ∀ a ∈ items, P a)
      (do
        let count ← Read.length typeName
        Read.checkCount count width typeName
        return Value.list (← Read.elements x count [])) (Value.list (items.map c)) := by
  have he := elements_restoresIf hi []
  have hr : (Script.all (items.map w)).RestoresIf (∀ a ∈ items, P a)
      (do return Value.list (← Read.elements x items.length [])) (Value.list (items.map c)) := he.finish (.pure _)
  have hb : (Script.all (items.map w)).AtLeast (items.length * width) := by
    have ha : ∀ s ∈ items.map w, s.AtLeast width := by simpa using hw
    simpa using AtLeast.all ha
  exact .behind (countBytes_restores hl typeName) (checkCount_restoresIf hr (hb he.ends) typeName)

theorem map_restoresIf {kw vw : Value → Script} {kx vx : Reading Value} {kc vc : Value → Value} {KP VP : Value → Prop}
    {entries : List (Value × Value)} {kn vn : Nat}
    (h : ∀ e ∈ entries, (kw e.1).RestoresIf (KP e.1) kx (kc e.1) ∧ (vw e.2).RestoresIf (VP e.2) vx (vc e.2))
    (hw : ∀ e ∈ entries, (kw e.1).AtLeast kn ∧ (vw e.2).AtLeast vn)
    (hh : ∀ e ∈ entries, (kc e.1).held = [] ∧ (vc e.2).held = [])
    (hl : entries.length ≤ maxLength) (typeName : String) :
    (countBytes entries.length ++ Script.all (entries.map fun e => kw e.1 ++ vw e.2)).RestoresIf
      (Carries.count entries.length (kn + vn) ∧ ∀ e ∈ entries, KP e.1 ∧ VP e.2 ∧ (kc e.1).unhashable? = none)
      (do
        let count ← Read.length typeName
        Read.checkCount count (kn + vn) typeName
        return Value.dict (← Read.entries kx vx count []))
      (Value.ofEntries (entries.map fun e => (kc e.1, vc e.2))) := by
  have hn : heldInEntries [] = [] := rfl
  have he := entries_restoresIf h hh hn
  have hr : (Script.all (entries.map fun e => kw e.1 ++ vw e.2)).RestoresIf
      (∀ e ∈ entries, KP e.1 ∧ VP e.2 ∧ (kc e.1).unhashable? = none)
      (do return Value.dict (← Read.entries kx vx entries.length []))
      (Value.ofEntries (entries.map fun e => (kc e.1, vc e.2))) := he.finish (.pure _)
  have hb : (Script.all (entries.map fun e => kw e.1 ++ vw e.2)).AtLeast (entries.length * (kn + vn)) := by
    have ha : ∀ s ∈ entries.map fun e => kw e.1 ++ vw e.2, s.AtLeast (kn + vn) := by
      intro s hs
      obtain ⟨e, hm, rfl⟩ := List.mem_map.mp hs
      exact (hw e hm).1.append (hw e hm).2
    simpa using AtLeast.all ha
  exact .behind (countBytes_restores hl typeName) (checkCount_restoresIf hr (hb he.ends) typeName)

/-- A moment outside the calendar is written, but not read. -/
theorem timestamp_restoresIf {t : Moment} {i : Int} (ht : t.instant? = some i)
    (hs : Layout.i64.Holds (Span.wholeSeconds ⟨i⟩)) :
    (Write.timestamp (.moment t)).RestoresIf (Calendar.firstInstant ≤ i ∧ i ≤ Calendar.lastInstant) Read.timestamp
      (Canon.timestamp (.moment t)) := by
  by_cases hi : Calendar.firstInstant ≤ i ∧ i ≤ Calendar.lastInstant
  · obtain ⟨u, hu⟩ := Moment.ofInstant?_of_mem hi.1 hi.2
    have hc : Canon.timestamp (.moment t) = .moment u := by
      simp only [Canon.timestamp, ht, Option.bind_some, hu]
    rw [hc]
    exact .of_restores (Write.timestamp_restores ht hu) hi
  · obtain ⟨a, b, seconds, nanos, hw, ha, hb, hsum⟩ := Write.timestamp_parts ht hs
    have hn : Moment.ofInstant? i = none := if_neg hi
    rw [hw]
    refine ⟨(append_failure ha.1).trans hb.1, fun h => absurd h hi, fun _ => ?_⟩
    rw [append_leadingBytes ha.1, ← List.append_nil b.leadingBytes]
    refine .bind_right ha.2 (.bind_right hb.2 ?_)
    rw [hsum, hn]
    exact .throw trivial

/-! ### Every shape -/

mutual

/-- What is written of a value that passed the check is read back as its canonical form just if all of it is
readable, between any other bytes. -/
theorem Shape.write_restoresIf (impls : Implementations) : (s : Shape) → s.isPlain → (v : Value) →
    s.check v = .ok () → s.Throughout Shape.Genuine v → s.Throughout Shape.Fits v →
    (s.write v).RestoresIf (s.Throughout Shape.Readable v) (s.read impls) (s.canon v)
  | .integer k, _, v, h, _, _ => by
    obtain ⟨i, rfl, hl, hh⟩ := Check.integer_eq_ok h
    exact .of_restores (Write.integer_restores hl hh) ((Shape.throughout_leaf rfl).mpr trivial)
  | .float32, _, v, h, _, _ => by
    obtain ⟨x, bits, hx, hb⟩ := Check.float32_eq_ok h
    simp only [Shape.canon, Canon.float32, hx, hb]
    exact .of_restores (Write.float32_restores hx hb) ((Shape.throughout_leaf rfl).mpr trivial)
  | .float64, _, v, h, _, hf => by
    obtain ⟨x, hx⟩ := hf.self rfl
    simp only [Shape.canon, Canon.float64, hx]
    exact .of_restores (Write.float64_restores hx) ((Shape.throughout_leaf rfl).mpr trivial)
  | .boolean, _, v, h, _, _ => by
    obtain ⟨b, rfl⟩ := Check.boolean_eq_ok h
    exact .of_restores (Write.boolean_restores b) ((Shape.throughout_leaf rfl).mpr trivial)
  | .text, _, v, h, _, hf => by
    have hc : Carries.text v := hf.self rfl
    obtain ⟨s, rfl⟩ | ⟨s, rfl⟩ := Check.text_eq_ok h
    · exact .of_restores (Write.encodedText_restores hc) ((Shape.throughout_leaf rfl).mpr trivial)
    · exact absurd hc id
  | .bytes, _, v, h, _, _ => by
    obtain ⟨holder, data, rfl, hl⟩ := Check.bytes_eq_ok h
    exact .of_restores (Write.bytes_restores hl) ((Shape.throughout_leaf rfl).mpr trivial)
  | .timestamp, _, v, h, hg, _ => by
    obtain ⟨t, i, rfl, hi⟩ := Check.timestamp_eq_ok h
    refine (timestamp_restoresIf hi (hg.self rfl t i rfl hi)).congr ?_
    rw [Shape.throughout_leaf rfl]
    constructor
    · rintro h _ j ⟨⟩ hj
      rw [hi] at hj
      cases hj
      exact h
    · intro h
      exact h t i rfl hi
  | .duration, _, v, h, hg, _ => by
    obtain ⟨s, rfl, hn⟩ := Check.duration_eq_ok h
    exact .of_restores (Write.duration_restores hn (hg.self rfl s rfl)) ((Shape.throughout_leaf rfl).mpr trivial)
  | .enumeration e, _, v, h, hg, hf => by
    obtain ⟨name, value, rfl⟩ := Check.enumeration_eq_ok h
    exact .of_restores (Write.enumeration_restores (hg.self rfl name value rfl) fun i => hf.self rfl name value i rfl)
      ((Shape.throughout_leaf rfl).mpr trivial)
  | .errors name kinds, _, v, h, _, hf => by
    obtain ⟨kind, message, rfl, hk, ht⟩ := Check.errors_eq_ok h
    obtain ⟨hi, hm⟩ := hf.self rfl kind message rfl
    obtain ⟨s, rfl⟩ | ⟨s, rfl⟩ := Check.text_eq_ok ht
    · exact .of_restores (Write.errors_restores hk hi hm) ((Shape.throughout_leaf rfl).mpr trivial)
    · exact absurd hm id
  | .optional inner, hp, v, h, hg, hf => by
    by_cases hv : v = .null
    · subst hv
      have hr : (Shape.optional inner).Throughout Shape.Readable .null := by simp [Shape.Throughout, Shape.parts]
      exact .of_restores (Restores.finish (.raw (.int rfl)) (.pure _)) hr
    · rw [Shape.throughout_optional hv] at *
      rw [Shape.write_optional hv, Shape.canon_optional hv]
      exact optional_restoresIf (inner.write_restoresIf impls hp v (Shape.check_optional h hv) hg hf) _
  | .sequence inner, hp, v, h, hg, hf => by
    obtain ⟨items, hv, hl, hi⟩ := Shape.check_sequence h
    rw [Shape.throughout_sequence hv] at *
    have hs := sequence_restoresIf
      (fun a ha => inner.write_restoresIf impls hp a (hi a ha) (hg.2 a ha) (hf.2 a ha))
      (fun a _ => inner.write_atLeast hp a) hl (Shape.sequence inner).typeName
    have hr : (Shape.sequence inner).Readable v ↔ Carries.count items.length inner.minWidth := by
      obtain rfl | rfl := hv <;> simp only [Shape.Readable, Value.length?, Option.some.injEq, forall_eq']
    rw [hr]
    obtain rfl | rfl := hv <;> exact hs
  | .map key value, hp, v, h, hg, hf => by
    obtain ⟨entries, rfl, hl, he⟩ := Shape.check_map h
    simp only [Shape.isPlain, Bool.and_eq_true] at hp
    rw [Shape.throughout_map] at *
    have hm := map_restoresIf
      (fun e hm => ⟨key.write_restoresIf impls hp.1 e.1 (he e hm).1 (hg.2 e hm).1 (hf.2 e hm).1,
        value.write_restoresIf impls hp.2 e.2 (he e hm).2 (hg.2 e hm).2 (hf.2 e hm).2⟩)
      (fun e _ => ⟨key.write_atLeast hp.1 e.1, value.write_atLeast hp.2 e.2⟩)
      (fun e hm => ⟨key.canon_held hp.1 (he e hm).1, value.canon_held hp.2 (he e hm).2⟩)
      hl (Shape.map key value).typeName
    refine hm.congr ?_
    constructor
    · rintro ⟨hc, hk⟩
      refine ⟨?_, fun e he => ⟨(hk e he).1, (hk e he).2.1⟩⟩
      rintro _ ⟨⟩
      exact ⟨hc, fun e he => (hk e he).2.2⟩
    · rintro ⟨hr, hk⟩
      obtain ⟨hc, hh⟩ := hr entries rfl
      exact ⟨hc, fun e he => ⟨(hk e he).1, (hk e he).2, hh e he⟩⟩
  | .record cls label fields, hp, v, h, hg, hf => by
    rw [Shape.throughout_record] at *
    have hn : heldInFields [] = [] := rfl
    have hfields := fields.write_restoresIf impls hp v (Shape.check_record h).2 hg.2 hf.2 hn
    have hr : ((Shape.record cls label fields).write v).RestoresIf (fields.Throughout Shape.Readable v)
        ((Shape.record cls label fields).read impls) ((Shape.record cls label fields).canon v) :=
      hfields.finish (.pure _)
    exact hr.congr (and_iff_right trivial).symm
  | .union name variants, hp, v, h, hg, hf => by
    obtain ⟨cls, bases, fields, i, rfl, hi, hv⟩ := Shape.check_union h
    have hs := variants.lastIndex?_lt_size hi
    rw [Shape.throughout_union hi] at *
    have hr := variants.write_restoresIf impls hp i hs _ hv hg.2 hf.2
    simp only [Shape.write, Shape.canon, hi]
    have hd := discriminantBytes_restores hs (hf.1 cls bases fields i rfl hi) name
    exact (RestoresIf.behind hd hr).congr (and_iff_right trivial).symm

theorem Fields.write_restoresIf (impls : Implementations) : (fs : Fields) → fs.isPlain → (v : Value) →
    fs.check v = .ok () → fs.Throughout Shape.Genuine v → fs.Throughout Shape.Fits v →
    {sofar : List (String × Option Value)} → heldInFields sofar = [] →
    (fs.write v).RestoresIf (fs.Throughout Shape.Readable v) (fs.read impls sofar) (fs.canon v sofar)
  | .nil, _, _, _, _, _, _, _ => .of_restores (.empty _) (by simp [Fields.Throughout, Fields.parts])
  | .cons name shape rest, hp, v, h, hg, hf, sofar, hs => by
    obtain ⟨a, ha, hca, hr⟩ := Fields.check_cons h
    simp only [Fields.isPlain, Bool.and_eq_true] at hp
    rw [Fields.throughout_cons ha] at *
    have hheld : heldInFields (Value.put name (some (shape.canon a)) sofar) = [] :=
      Value.heldInFields_put (shape.canon_held hp.1 hca) hs
    have hshape := (shape.write_restoresIf impls hp.1 a hca hg.1 hf.1).orDrop fun _ => heldInFields sofar
    have hrest := rest.write_restoresIf impls hp.2 v hr hg.2 hf.2 hheld
    simp only [Fields.write, Fields.canon, ha, Value.attribute]
    exact hshape.bind (hrest.after (addField_consumes hs))

theorem Variants.write_restoresIf (impls : Implementations) : (vs : Variants) → vs.isPlain → (i : Nat) →
    i < vs.size → (v : Value) → vs.check i v = .ok () → vs.Throughout Shape.Genuine i v →
    vs.Throughout Shape.Fits i v →
    (vs.write i v).RestoresIf (vs.Throughout Shape.Readable i v) (vs.read impls i) (vs.canon i v)
  | .cons cls fields rest, hp, 0, _, v, h, hg, hf => by
    simp only [Variants.isPlain, Bool.and_eq_true] at hp
    exact (fields.write_restoresIf impls hp.1 v h hg hf rfl).finish (.pure _)
  | .cons cls fields rest, hp, i + 1, hi, v, h, hg, hf => by
    simp only [Variants.isPlain, Bool.and_eq_true] at hp
    exact rest.write_restoresIf impls hp.2 i (Nat.lt_of_succ_lt_succ hi) v h hg hf

end

end ForeignBridge
