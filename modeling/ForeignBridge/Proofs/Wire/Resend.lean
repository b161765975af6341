import ForeignBridge.Proofs.Number.Single
import ForeignBridge.Proofs.Wire.Decode
import ForeignBridge.Proofs.Wire.Parts
import ForeignBridge.Proofs.Wire.RoundTrip
import ForeignBridge.Proofs.Wire.Writes

/-!
Decoded values can be sent back. What came off the wire passes the check, however odd its bytes were, and
what is written of it are bytes of the same value: keys that came again, digits below a microsecond, flags
around flags and kinds listed twice are gone by then.
-/

namespace ForeignBridge

mutual

/-- Whether names are told apart: the fields of a record, the classes of a union and the members of an enum. A
kind of error may be listed twice if every position in the list is a discriminant. -/
def Shape.Distinct : Shape → Prop
  | .optional inner | .sequence inner => inner.Distinct
  | .map key value => key.Distinct ∧ value.Distinct
  | .record _ _ fields => fields.names.Nodup ∧ fields.Distinct
  | .enumeration e => (e.members.map Prod.fst).Nodup
  | .union _ variants => variants.classes.Nodup ∧ variants.Distinct
  | .errors _ kinds => kinds.Nodup ∨ kinds.length ≤ maxLength
  | _ => True

def Fields.Distinct : Fields → Prop
  | .nil => True
  | .cons _ shape rest => shape.Distinct ∧ rest.Distinct

def Variants.Distinct : Variants → Prop
  | .nil => True
  | .cons _ fields rest => fields.names.Nodup ∧ fields.Distinct ∧ rest.Distinct

end

open Script

/-- A name that comes once stands at one position. -/
theorem position_unique {names : List String} (hn : names.Nodup) {name : String} {i j : Nat}
    (hi : names[i]? = some name) (hj : names[j]? = some name) : i = j :=
  (List.getElem?_inj (List.getElem?_eq_some_iff.mp hi).1 hn).mp (hi.trans hj.symm)

theorem lastIndex?_of_nodup {name : String} {names : List String} {i : Nat} (hn : names.Nodup)
    (h : names[i]? = some name) : lastIndex? name names = some i := by
  obtain ⟨j, hj⟩ := lastIndex?_of_mem (List.mem_of_getElem? h)
  rw [hj, position_unique hn h (lastIndex?_getElem? hj)]

theorem EnumType.index?_of_nodup {e : EnumType} {name : String} {value : Value} {i : Nat}
    (hn : (e.members.map Prod.fst).Nodup) (h : e.members[i]? = some (name, value)) : e.index? name = some i := by
  have hm : (e.members.map Prod.fst)[i]? = some name := by
    rw [List.getElem?_map, h, Option.map_some]
  have hs : ((e.members.map Prod.fst).idxOf? name).isSome := by
    simpa using List.mem_of_getElem? hm
  obtain ⟨j, hj⟩ := Option.isSome_iff_exists.mp hs
  obtain ⟨hlt, hv, -⟩ := List.idxOf?_eq_some_iff.mp hj
  have hjm : (e.members.map Prod.fst)[j]? = some name := by
    rw [List.getElem?_eq_getElem hlt, hv]
  rw [index?, hj, position_unique hn hm hjm]

/-- A value that can be sent: it passes the check, and what is written of it are bytes that mean it. -/
def Shape.Sends (impls : Implementations) (s : Shape) (v : Value) : Prop :=
  s.check v = .ok () ∧ ∃ bs, (s.write v).Writes bs ∧ s.Denotes impls bs v

/-- Whole seconds and nanoseconds make a span of which the seconds and the microseconds are found again. -/
theorem Span.parts_of_nanos {s : Span} {seconds nanos : Int} (hn : 0 ≤ nanos ∧ nanos < nanosPerSecond)
    (hm : s.micros = seconds * Calendar.microsPerSecond + nanos / 1000) :
    s.wholeSeconds = seconds ∧ s.microseconds = nanos / 1000 := by
  have hsec := s.wholeSeconds_eq
  have hmic := s.microseconds_eq
  unfold nanosPerSecond at hn
  unfold Calendar.microsPerSecond at hm
  omega

namespace Shape.Sends

variable {impls : Implementations}

theorem integer {k : IntKind} {i : Int} (h : k.layout.Holds i) : (integer k).Sends impls (.int i) := by
  refine ⟨if_pos h, _, ?_, .integer h⟩
  have hp : k.layout.pack (.int i) = k.layout.packInt i := by
    cases k <;> rfl
  rw [write, hp]
  exact .packInt h

/-- A double that was a binary32 number is written as one again. -/
theorem float32 (bits : UInt32) : float32.Sends impls (.float (.ofSingle bits)) := by
  obtain ⟨b, hb, he⟩ := Double.toSingle?_ofSingle bits
  have hd : Shape.float32.Denotes impls (bigEndian 4 b.toNat) (.float (.ofSingle b)) := .float32 b
  rw [he] at hd
  refine ⟨?_, _, ?_, hd⟩
  · have hn : ¬ ((Double.ofSingle bits).isFinite ∧ (Double.ofSingle bits).toSingle? = none) := by
      rw [hb]
      exact fun h => nomatch h.2
    exact if_neg hn
  · apply Writes.ofExcept
    simp only [Layout.pack, Layout.doubleOf, bind, Except.bind, hb]

theorem float64 (x : Double) : float64.Sends impls (.float x) :=
  ⟨rfl, _, .ofExcept rfl, .float64 x⟩

theorem boolean (b : Bool) : boolean.Sends impls (.bool b) := by
  cases b with
  | false => exact ⟨rfl, [0], .ofExcept rfl, .no⟩
  | true => exact ⟨rfl, [1], .ofExcept rfl, .yes⟩

theorem text {s : String} (h : (Utf8.encode s).length ≤ maxLength) : text.Sends impls (.text s) := by
  have hs : s.length ≤ maxLength := (Utf8.length_le_encode s).trans h
  have hc : (.ofExcept (checkLength (Utf8.encode s).length "String" *> .ok []) : Script).Writes [] := by
    rw [checkLength_of_le h]
    exact .raw []
  exact ⟨checkLength_of_le hs _, _, (hc.append (countBytes_writes h)).append (.raw _), .text h⟩

theorem bytes {data : Bytes} (h : data.length ≤ maxLength) : bytes.Sends impls (.bytes .frozen data) :=
  ⟨checkLength_of_le h _, _, (countBytes_writes h).append (.raw _), .bytes h⟩

/-- Whole microseconds are sent as nanoseconds. -/
theorem micros {nanos : Int} (h : 0 ≤ nanos ∧ nanos < nanosPerSecond) :
    Layout.u32.Holds (nanos / 1000 * 1000) ∧ (0 ≤ nanos / 1000 * 1000 ∧ nanos / 1000 * 1000 < nanosPerSecond) ∧
      nanos / 1000 * 1000 / 1000 = nanos / 1000 := by
  unfold nanosPerSecond at *
  change ((0 : Int) ≤ nanos / 1000 * 1000 ∧ nanos / 1000 * 1000 ≤ 4294967295) ∧ _
  omega

theorem timestamp {seconds nanos : Int} {t : Moment} (hs : Layout.i64.Holds seconds)
    (hn : 0 ≤ nanos ∧ nanos < nanosPerSecond) (ht : t.IsAt (seconds * Calendar.microsPerSecond + nanos / 1000)) :
    timestamp.Sends impls (.moment t) := by
  obtain ⟨hw, hm⟩ := Span.parts_of_nanos (s := ⟨seconds * Calendar.microsPerSecond + nanos / 1000⟩) hn rfl
  obtain ⟨hu, hr, hd⟩ := micros hn
  refine ⟨?_, _, ?_, .timestamp hs hr (by rwa [hd])⟩
  · rw [check, Check.timestamp, ht.utc]
    rfl
  · rw [write, Write.timestamp, ht.instant]
    dsimp only
    rw [hw, hm]
    exact (Writes.packInt hs).append (.packInt hu)

theorem duration {seconds nanos : Int} {s : Span} (hs : Layout.u64.Holds seconds)
    (hn : 0 ≤ nanos ∧ nanos < nanosPerSecond) (hm : s.micros = seconds * Calendar.microsPerSecond + nanos / 1000)
    (hr : s.InRange) : duration.Sends impls (.span s) := by
  obtain ⟨hw, hmic⟩ := Span.parts_of_nanos hn hm
  obtain ⟨hu, hb, hd⟩ := micros hn
  have hpos : 0 ≤ seconds := hs.1
  refine ⟨?_, _, ?_, .duration hs hb (by rwa [hd]) hr⟩
  · rw [check, Check.duration, if_neg]
    unfold Calendar.microsPerSecond at hm
    omega
  · rw [write, Write.duration, hw, hmic]
    exact (Writes.packInt hs).append (.packInt hu)

theorem enumeration {e : EnumType} {i : Nat} {name : String} {value : Value} (hd : (e.members.map Prod.fst).Nodup)
    (h : e.members[i]? = some (name, value)) (hi : i + 1 ≤ maxLength) :
    (enumeration e).Sends impls (.member e.name name value) := by
  refine ⟨if_pos rfl, _, ?_, .enumeration h hi⟩
  simp only [write, Write.enumeration, if_pos, EnumType.index?_of_nodup hd h]
  exact discriminantBytes_writes hi

/-- A kind that is listed twice is sent as the last of its positions. -/
theorem errors {name : String} {kinds : List String} {i : Nat} {kind : String} {message : String}
    (hd : kinds.Nodup ∨ kinds.length ≤ maxLength) (h : kinds[i]? = some kind) (hi : i + 1 ≤ maxLength)
    (hm : (Utf8.encode message).length ≤ maxLength) :
    (errors name kinds).Sends impls (.declared kind (.text message)) := by
  have hmem : kind ∈ kinds := List.mem_of_getElem? h
  obtain ⟨j, hj⟩ := lastIndex?_of_mem hmem
  have hle : j + 1 ≤ maxLength := by
    obtain hd | hd := hd
    · have hlast := lastIndex?_of_nodup hd h
      rw [hj] at hlast
      cases hlast
      exact hi
    · have := lastIndex?_lt hj
      omega
  have htext : Shape.text.Sends impls (.text message) := text hm
  obtain ⟨hcheck, bs, hwrite, hden⟩ := htext
  refine ⟨?_, _, ?_, .errors (lastIndex?_getElem? hj) hle hden⟩
  · rw [check, Check.errors, if_pos (by simpa using hmem)]
    exact hcheck
  · simp only [write, Write.errors, hj]
    exact (discriminantBytes_writes hle).append hwrite

/-! ### Composites -/

variable {inner key value : Shape}

theorem optional {v : Value} (h : inner.Sends impls v) : (optional inner).Sends impls v := by
  by_cases hv : v = .null
  · subst hv
    exact ⟨rfl, [0], .raw _, .absent⟩
  · obtain ⟨hc, bs, hw, hd⟩ := h
    refine ⟨?_, 1 :: bs, ?_, .present hd⟩
    · rw [check]
      · exact hc
      · exact hv
    · rw [write_optional hv]
      exact (Writes.raw [1]).append hw

theorem elements {items : List Value} (h : ∀ a ∈ items, inner.Sends impls a) :
    ∃ bs, (Script.all (items.map inner.write)).Writes bs ∧ DenoteAll impls inner bs items := by
  induction items with
  | nil => exact ⟨[], .empty, .nil⟩
  | cons a rest ih =>
    obtain ⟨-, bs, hw, hd⟩ := h a (by simp)
    obtain ⟨cs, hws, hds⟩ := ih fun b hb => h b (by simp [hb])
    exact ⟨bs ++ cs, hw.append hws, .cons hd hds⟩

theorem sequence {items : List Value} (h : ∀ a ∈ items, inner.Sends impls a) (hl : items.length ≤ maxLength)
    (hz : inner.minWidth = 0 → items.length ≤ maxZeroWidthCount) : (sequence inner).Sends impls (.list items) := by
  obtain ⟨bs, hw, hd⟩ := elements h
  refine ⟨?_, _, (countBytes_writes hl).append hw, .sequence hd hl hz⟩
  rw [check, checkLength_of_le hl]
  exact Except.forM_of_ok fun a ha => (h a ha).1

theorem entries {entries : List (Value × Value)} (h : ∀ e ∈ entries, key.Sends impls e.1 ∧ value.Sends impls e.2) :
    ∃ bs, (Script.all (entries.map fun e => key.write e.1 ++ value.write e.2)).Writes bs ∧
      DenoteEntries impls key value bs entries := by
  induction entries with
  | nil => exact ⟨[], .empty, .nil⟩
  | cons e rest ih =>
    obtain ⟨⟨-, bs, hk, hkd⟩, -, cs, hv, hvd⟩ := h e (by simp)
    obtain ⟨ds, hw, hd⟩ := ih fun d hm => h d (by simp [hm])
    refine ⟨bs ++ (cs ++ ds), ?_, .cons hkd hvd hd⟩
    rw [List.map_cons, Script.all, append_assoc]
    exact hk.append (hv.append hw)

/-- Entries whose keys stay apart are written as they stand. -/
theorem map {entries : List (Value × Value)} (h : ∀ e ∈ entries, key.Sends impls e.1 ∧ value.Sends impls e.2)
    (hk : entries.Pairwise fun a b => a.1.same b.1 = false) (hl : entries.length ≤ maxLength)
    (hz : key.minWidth + value.minWidth = 0 → entries.length ≤ maxZeroWidthCount) :
    (map key value).Sends impls (.dict entries) := by
  obtain ⟨bs, hw, hd⟩ := Sends.entries h
  have hsame : Value.ofEntries entries = .dict entries := by
    rw [Value.ofEntries, Value.foldl_insertEntry_of_distinct (by simpa using hk), List.nil_append]
  refine ⟨?_, _, (countBytes_writes hl).append hw, hsame ▸ .map hd hl hz⟩
  rw [check, checkLength_of_le hl]
  apply Except.forM_of_ok
  intro e he
  obtain ⟨hke, hve⟩ := h e he
  rw [hke.1]
  exact hve.1

end Shape.Sends

/-! ### What a decoded map holds -/

namespace Value

theorem insertEntry_mem {k v : Value} {entries : List (Value × Value)} {e : Value × Value}
    (h : e ∈ insertEntry k v entries) :
    (e.1 = k ∨ ∃ d ∈ entries, e.1 = d.1) ∧ (e.2 = v ∨ ∃ d ∈ entries, e.2 = d.2) := by
  induction entries with
  | nil =>
    obtain rfl := List.mem_singleton.mp h
    exact ⟨.inl rfl, .inl rfl⟩
  | cons d rest ih =>
    rw [insertEntry] at h
    split at h
    · obtain rfl | hr := List.mem_cons.mp h
      · exact ⟨.inr ⟨d, by simp, rfl⟩, .inl rfl⟩
      · exact ⟨.inr ⟨e, by simp [hr], rfl⟩, .inr ⟨e, by simp [hr], rfl⟩⟩
    · obtain rfl | hr := List.mem_cons.mp h
      · exact ⟨.inr ⟨_, by simp, rfl⟩, .inr ⟨_, by simp, rfl⟩⟩
      · obtain ⟨hk, hv⟩ := ih hr
        exact ⟨hk.imp_right List.exists_mem_cons_of_exists, hv.imp_right List.exists_mem_cons_of_exists⟩

theorem insertEntry_length (k v : Value) (entries : List (Value × Value)) :
    (insertEntry k v entries).length ≤ entries.length + 1 := by
  induction entries with
  | nil => exact Nat.le_refl 1
  | cons d rest ih =>
    rw [insertEntry]
    split
    · exact Nat.le_succ _
    · exact Nat.succ_le_succ ih

/-- An insertion keeps keys apart. -/
theorem insertEntry_pairwise {k v : Value} {entries : List (Value × Value)}
    (h : entries.Pairwise fun a b => a.1.same b.1 = false) :
    (insertEntry k v entries).Pairwise fun a b => a.1.same b.1 = false := by
  induction entries with
  | nil => simp [insertEntry]
  | cons d rest ih =>
    obtain ⟨hd, hr⟩ := List.pairwise_cons.mp h
    rw [insertEntry]
    split
    · exact List.pairwise_cons.mpr ⟨hd, hr⟩
    · rename_i hn
      refine List.pairwise_cons.mpr ⟨fun e he => ?_, ih hr⟩
      obtain ⟨hk | ⟨c, hc, hk⟩, -⟩ := insertEntry_mem he
      · rw [hk]
        simpa using hn
      · rw [hk]
        exact hd c hc

/-- What insertion of entries one after the other leaves of them. -/
structure Collapses (entries result : List (Value × Value)) : Prop where
  keys : ∀ e ∈ result, ∃ d ∈ entries, e.1 = d.1
  values : ∀ e ∈ result, ∃ d ∈ entries, e.2 = d.2
  apart : result.Pairwise fun a b => a.1.same b.1 = false
  length_le : result.length ≤ entries.length

theorem Collapses.snoc {entries result : List (Value × Value)} (h : Collapses entries result) (k v : Value) :
    Collapses (entries ++ [(k, v)]) (insertEntry k v result) where
  keys e he := by
    obtain ⟨rfl | ⟨d, hd, hk⟩, -⟩ := insertEntry_mem he
    · exact ⟨(e.1, v), by simp, rfl⟩
    · obtain ⟨c, hc, hk'⟩ := h.keys d hd
      exact ⟨c, by simp [hc], hk.trans hk'⟩
  values e he := by
    obtain ⟨-, rfl | ⟨d, hd, hv⟩⟩ := insertEntry_mem he
    · exact ⟨(k, e.2), by simp, rfl⟩
    · obtain ⟨c, hc, hv'⟩ := h.values d hd
      exact ⟨c, by simp [hc], hv.trans hv'⟩
  apart := insertEntry_pairwise h.apart
  length_le := by
    have hl := insertEntry_length k v result
    have hle := h.length_le
    rw [List.length_append, List.length_singleton]
    omega

theorem Collapses.foldl {entries result : List (Value × Value)} (h : Collapses entries result)
    (more : List (Value × Value)) :
    Collapses (entries ++ more) (more.foldl (fun es e => insertEntry e.1 e.2 es) result) := by
  induction more generalizing entries result with
  | nil => simpa using h
  | cons e rest ih =>
    have hr := ih (h.snoc e.1 e.2)
    rwa [List.append_assoc, List.singleton_append] at hr

theorem collapses_insert (entries : List (Value × Value)) :
    Collapses entries (entries.foldl (fun es e => insertEntry e.1 e.2 es) []) := by
  have hnone : Collapses [] [] := ⟨by simp, by simp, .nil, Nat.le_refl _⟩
  exact hnone.foldl entries

/-! ### What a decoded record holds -/

/-- A record built from values by name has each of them under its name. -/
theorem attribute?_fieldsOf {cls : String} {bases : List String} {named : List (String × Value)}
    (h : (named.map Prod.fst).Nodup) {f : String × Value} (hf : f ∈ named) :
    (record cls bases (fieldsOf named)).attribute? f.1 = some f.2 := by
  have hfields : fieldsOf named = named.map fun f => (f.1, some f.2) := foldl_put_of_nodup (by simpa using h)
  have hn : ((named.map fun f => (f.1, some f.2)).map Prod.fst).Nodup := by
    simpa [Function.comp_def] using h
  have hl : lookup f.1 (named.map fun f => (f.1, some f.2)) = some (some f.2) :=
    lookup_of_nodup hn (List.mem_map.mpr ⟨f, hf, rfl⟩)
  rw [hfields]
  exact congrArg Option.join hl

end Value

theorem Fields.Denote.names {impls : Implementations} {fs : Fields} {bs : Bytes} {named : List (String × Value)}
    (h : fs.Denote impls bs named) : named.map Prod.fst = fs.names := by
  induction named generalizing fs bs with
  | nil =>
    cases h
    rfl
  | cons f rest ih =>
    cases h with
    | cons _ hr => exact congrArg _ (ih hr)

/-- A place among variants is the place of a class, and its bytes are those of a record of the class. -/
theorem Variants.Denotes.class {impls : Implementations} {vs : Variants} {i : Nat} {bs : Bytes} {v : Value}
    (h : vs.Denotes impls i bs v) :
    ∃ cls named, vs.classes[i]? = some cls ∧ v = .record cls [] (Value.fieldsOf named) := by
  induction i generalizing vs with
  | zero =>
    cases h with
    | here h => exact ⟨_, _, rfl, rfl⟩
  | succ i ih =>
    cases h with
    | later h => exact ih h

variable {impls : Implementations}

theorem Shape.DenoteAll.sends {inner : Shape} (hx : ∀ {bs v}, inner.Denotes impls bs v → inner.Sends impls v)
    {bs : Bytes} {items : List Value} (h : DenoteAll impls inner bs items) : ∀ a ∈ items, inner.Sends impls a := by
  induction items generalizing bs with
  | nil => simp
  | cons a rest ih =>
    cases h with
    | cons h hr => exact List.forall_mem_cons.mpr ⟨hx h, ih hr⟩

theorem Shape.DenoteEntries.sends {key value : Shape}
    (hk : ∀ {bs v}, key.Denotes impls bs v → key.Sends impls v)
    (hv : ∀ {bs v}, value.Denotes impls bs v → value.Sends impls v) {bs : Bytes} {entries : List (Value × Value)}
    (h : DenoteEntries impls key value bs entries) :
    ∀ e ∈ entries, key.Sends impls e.1 ∧ value.Sends impls e.2 := by
  induction entries generalizing bs with
  | nil => simp
  | cons e rest ih =>
    cases h with
    | cons hkey hvalue hr => exact List.forall_mem_cons.mpr ⟨⟨hk hkey, hv hvalue⟩, ih hr⟩

mutual

/-- What bytes of a shape mean can be sent in this shape. -/
theorem Shape.Denotes.sends : (s : Shape) → s.isPlain → s.Distinct → {bs : Bytes} → {v : Value} →
    s.Denotes impls bs v → s.Sends impls v
  | .integer _, _, _, _, _, h => by
    cases h with
    | integer h => exact .integer h
  | .float32, _, _, _, _, h => by
    cases h with
    | float32 bits => exact .float32 bits
  | .float64, _, _, _, _, h => by
    cases h with
    | float64 x => exact .float64 x
  | .boolean, _, _, _, _, h => by
    cases h with
    | no => exact .boolean false
    | yes => exact .boolean true
  | .text, _, _, _, _, h => by
    cases h with
    | text h => exact .text h
  | .bytes, _, _, _, _, h => by
    cases h with
    | bytes h => exact .bytes h
  | .timestamp, _, _, _, _, h => by
    cases h with
    | timestamp hs hn ht => exact .timestamp hs hn ht
  | .duration, _, _, _, _, h => by
    cases h with
    | duration hs hn hm hr => exact .duration hs hn hm hr
  | .enumeration _, _, hd, _, _, h => by
    cases h with
    | enumeration h hi => exact .enumeration hd h hi
  | .errors _ _, _, hd, _, _, h => by
    cases h with
    | errors h hi hm =>
      cases hm with
      | text hm => exact .errors hd h hi hm
  | .optional inner, hp, hd, _, _, h => by
    cases h with
    | absent => exact ⟨rfl, [0], .raw _, .absent⟩
    | present h => exact .optional (Shape.Denotes.sends inner hp hd h)
  | .sequence inner, hp, hd, _, _, h => by
    cases h with
    | sequence h hl hz => exact .sequence (h.sends (Shape.Denotes.sends inner hp hd)) hl hz
  | .map key value, hp, hd, _, _, h => by
    simp only [Shape.isPlain, Bool.and_eq_true] at hp
    cases h with
    | @map _ _ _ pairs h hl hz =>
      have hs := h.sends (Shape.Denotes.sends key hp.1 hd.1) (Shape.Denotes.sends value hp.2 hd.2)
      have hc := Value.collapses_insert pairs
      refine .map (fun e he => ?_) hc.apart (hc.length_le.trans hl) fun hw => hc.length_le.trans (hz hw)
      obtain ⟨d, hdm, hk⟩ := hc.keys e he
      obtain ⟨c, hcm, hv⟩ := hc.values e he
      rw [hk, hv]
      exact ⟨(hs d hdm).1, (hs c hcm).2⟩
  | .record cls label fields, hp, hd, _, _, h => by
    cases h with
    | @record _ _ _ _ named h =>
      have hn : (named.map Prod.fst).Nodup := h.names ▸ hd.1
      obtain ⟨hc, bs, hw, hden⟩ := Fields.Denote.sends fields hp hd.2 h fun f hf => Value.attribute?_fieldsOf hn hf
      refine ⟨?_, bs, hw, .record hden⟩
      rw [Shape.check, Value.isRecordOf, beq_self_eq_true, Bool.true_or, if_pos rfl, hc]
  | .union name variants, hp, hd, _, _, h => by
    cases h with
    | union h hi =>
      obtain ⟨cls, named, hcls, rfl⟩ := h.class
      have hlast := lastIndex?_of_nodup hd.1 hcls
      obtain ⟨hc, bs, hw, hden⟩ := Variants.Denotes.sends variants hp hd.2 h
      refine ⟨?_, _, ?_, .union hden hi⟩
      · simp only [Shape.check, hlast, hc]
      · simp only [Shape.write, hlast]
        exact (discriminantBytes_writes hi).append hw

/-- A value that has the values of the fields as its attributes is sent field by field. -/
theorem Fields.Denote.sends : (fs : Fields) → fs.isPlain → fs.Distinct → {bs : Bytes} →
    {named : List (String × Value)} → fs.Denote impls bs named → {v : Value} →
    (∀ f ∈ named, v.attribute? f.1 = some f.2) →
    fs.check v = .ok () ∧ ∃ cs, (fs.write v).Writes cs ∧ fs.Denote impls cs named
  | .nil, _, _, _, _, h, _, _ => by
    cases h
    exact ⟨rfl, [], .empty, .nil⟩
  | .cons name shape rest, hp, hd, _, _, h, v, hv => by
    simp only [Fields.isPlain, Bool.and_eq_true] at hp
    cases h with
    | @cons _ _ _ _ _ a _ h hr =>
      have ha : v.attribute? name = some a := hv (name, a) (by simp)
      obtain ⟨hc, bs, hw, hden⟩ := Shape.Denotes.sends shape hp.1 hd.1 h
      obtain ⟨hcs, cs, hws, hdens⟩ := Fields.Denote.sends rest hp.2 hd.2 hr fun f hf => hv f (by simp [hf])
      refine ⟨?_, bs ++ cs, ?_, .cons hden hdens⟩
      · simp only [Fields.check, Value.attribute, ha, bind, Except.bind, hc, hcs]
      · simp only [Fields.write, Value.attribute, ha]
        exact hw.append hws

theorem Variants.Denotes.sends : (vs : Variants) → vs.isPlain → vs.Distinct → {i : Nat} → {bs : Bytes} → {v : Value} →
    vs.Denotes impls i bs v →
    vs.check i v = .ok () ∧ ∃ cs, (vs.write i v).Writes cs ∧ vs.Denotes impls i cs v
  | .cons cls fields rest, hp, hd, _, _, _, h => by
    simp only [Variants.isPlain, Bool.and_eq_true] at hp
    cases h with
    | @here _ _ _ _ named h =>
      have hn : (named.map Prod.fst).Nodup := h.names ▸ hd.1
      obtain ⟨hc, bs, hw, hden⟩ := Fields.Denote.sends fields hp.1 hd.2.1 h fun f hf => Value.attribute?_fieldsOf hn hf
      exact ⟨hc, bs, hw, .here hden⟩
    | later h =>
      obtain ⟨hc, bs, hw, hden⟩ := Variants.Denotes.sends rest hp.2 hd.2.2 h
      exact ⟨hc, bs, hw, .later hden⟩

end

namespace Shape

/-- What was decoded passes the check and is encoded again, and its encoding is decoded to the same value, though the
bytes that it came from need not have been that encoding. -/
theorem decode_resends {s : Shape} (hp : s.isPlain) (hk : s.hasKeys) (hd : s.Distinct) {data : Bytes} {v : Value}
    (h : s.decode data = .ok v) :
    s.check v = .ok () ∧ ∃ bs, s.encode v = .ok bs ∧ s.decode bs = .ok v := by
  have hden := (decode_iff_denotes (s.hashableKeys hk)).mp h
  obtain ⟨hc, bs, hw, hbs⟩ := Denotes.sends s hp hd hden
  refine ⟨hc, bs, ?_, (decode_iff_denotes (s.hashableKeys hk)).mpr hbs⟩
  simp only [encode, hc, bind, Except.bind, hw.1, hw.2]

/-- The shape of delays by number, some of them unknown. -/
def delays : Shape := .map (.integer .int8) (.optional (.optional .duration))

/-- Three delays: an unknown one, one of 1999 nanoseconds under the same number, and another unknown one. -/
def delayedTwice : Bytes :=
  [0, 0, 0, 3, 5, 1, 0, 5, 1, 1, 0, 0, 0, 0, 0, 0, 0, 0, 0, 0, 7, 207, 6, 1, 0]

theorem decode_delayedTwice :
    delays.decode delayedTwice = .ok (.dict [(.int 5, .span ⟨1⟩), (.int 6, .null)]) := by
  have number {i : Int} (h : Layout.i8.Holds i) :
      (integer .int8).Denotes .none (Layout.i8.numeral i) (.int i) := .integer (k := .int8) h
  have unknown : (optional (optional .duration)).Denotes .none [1, 0] .null := .present .absent
  have known : duration.Denotes .none (Layout.u64.numeral 0 ++ Layout.u32.numeral 1999) (.span ⟨1⟩) :=
    .duration (by decide) (by decide) rfl (by decide)
  have five := number (i := 5) (by decide)
  have six := number (i := 6) (by decide)
  have hentries : Value.ofEntries [(.int 5, .null), (.int 5, .span ⟨1⟩), (.int 6, .null)] =
      .dict [(.int 5, .span ⟨1⟩), (.int 6, .null)] := by
    simp [Value.ofEntries, Value.insertEntry, Value.same]
  rw [decode_iff_denotes (delays.hashableKeys rfl), ← hentries]
  apply Denotes.map (.cons five unknown (.cons five (.present (.present known)) (.cons six unknown .nil))) (by decide)
  intro h
  exact absurd h (by decide)

theorem decode_resends_delays : delays.isPlain ∧ delays.hasKeys ∧ delays.Distinct ∧
    delays.decode delayedTwice = .ok (.dict [(.int 5, .span ⟨1⟩), (.int 6, .null)]) ∧
      ∃ bs, delays.encode (.dict [(.int 5, .span ⟨1⟩), (.int 6, .null)]) = .ok bs ∧
        delays.decode bs = .ok (.dict [(.int 5, .span ⟨1⟩), (.int 6, .null)]) := by
  have hd : delays.Distinct := ⟨trivial, trivial⟩
  exact ⟨rfl, rfl, hd, decode_delayedTwice, (decode_resends (s := delays) rfl rfl hd decode_delayedTwice).2⟩

end Shape

end ForeignBridge
