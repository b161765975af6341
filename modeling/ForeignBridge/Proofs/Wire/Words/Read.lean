import ForeignBridge.Proofs.Wire.Words.Check
import ForeignBridge.Wire.Read

/-!
How a read fails. What is read has the names of its shape, and a failure of a read is told in names of the shape
and in numerals.
-/

namespace ForeignBridge

open Surrogate Failure

variable {α β : Type}

/-- An end that is as wished, or else told in words. -/
def Reading.Ends (P : α → Prop) : EStateM.Result Failure Reader α → Prop
  | .ok a _ => P a
  | .error f _ => f.Worded

/-- A reading that gives what is wished, or else fails in words. -/
def Reading.Gives (x : Reading α) (P : α → Prop) : Prop := ∀ r, Reading.Ends P (x r)

theorem underflow_worded (needed left : Int) : (underflow needed left).Worded := by
  refine .of_message rfl ?_
  change Whole ("buffer underflow: needed " ++ toString needed ++ " byte(s) but only " ++ toString left ++ " remain")
  simp only [whole_append, and_assoc]
  exact ⟨by decide, whole_int _, by decide, whole_int _, by decide⟩

theorem readerReleased_worded : readerReleased.Worded := .of_message rfl (by decide)

namespace Reading.Gives

variable {x : Reading α} {f : α → Reading β} {P : α → Prop} {Q : β → Prop}

theorem pure {a : α} (h : P a) : (Pure.pure a : Reading α).Gives P := fun _ => h

theorem mono {P' : α → Prop} (hx : x.Gives P) (h : ∀ a, P a → P' a) : x.Gives P' := by
  intro r
  have hr := hx r
  cases hx : x r with
  | ok a r' =>
    rw [hx] at hr
    exact h a hr
  | error e r' =>
    rw [hx] at hr
    exact hr

theorem throw {e : Failure} (h : e.Worded) : (MonadExcept.throw e : Reading α).Gives P := fun _ => h

theorem bind (hx : x.Gives P) (hf : ∀ a, P a → (f a).Gives Q) : (x >>= f).Gives Q := by
  intro r
  have h := hx r
  change Ends Q (EStateM.bind x f r)
  unfold EStateM.bind
  cases hr : x r with
  | ok a r' =>
    rw [hr] at h
    exact hf a h r'
  | error e r' =>
    rw [hr] at h
    exact h

theorem map {g : α → β} (hx : x.Gives P) (hg : ∀ a, P a → Q (g a)) : (g <$> x).Gives Q := by
  intro r
  have h := hx r
  change Ends Q (EStateM.map g x r)
  unfold EStateM.map
  cases hr : x r with
  | ok a r' =>
    rw [hr] at h
    exact hg a h
  | error e r' =>
    rw [hr] at h
    exact h

theorem orDrop (hx : x.Gives P) (held : Unit → List Nat) : (x.orDrop held).Gives P := by
  intro r
  have h := hx r
  unfold Reading.orDrop
  cases hr : x r with
  | ok a r' =>
    rw [hr] at h
    exact h
  | error e r' =>
    rw [hr] at h
    exact h

theorem drop (pointers : List Nat) : (Reading.drop pointers).Gives fun _ => True := fun _ => trivial

theorem remaining : Reading.remaining.Gives fun _ => True := by
  intro r
  unfold Reading.remaining
  split
  · exact readerReleased_worded
  · trivial

theorem take (n : Int) : (Reading.take n).Gives fun _ => True := by
  intro r
  unfold Reading.take
  split
  · exact readerReleased_worded
  split
  · exact underflow_worded _ _
  · trivial

theorem takeScalar (l : Layout) : (Reading.takeScalar l).Gives fun _ => True := by
  intro r
  unfold Reading.takeScalar
  split
  · exact readerReleased_worded
  split
  · exact underflow_worded _ _
  extract_lets start
  split
  · refine Worded.packing ?_
    simp only [whole_append, and_assoc]
    exact ⟨by decide, whole_int _, by decide⟩
  · trivial

theorem int (l : Layout) : (Reading.int l).Gives fun _ => True := (takeScalar l).map fun _ _ => trivial

theorem named_unpack (l : Layout) (bs : Bytes) : (l.unpack bs).Named := by
  cases l <;> trivial

theorem scalar (l : Layout) : (Reading.scalar l).Gives Value.Named := (takeScalar l).map fun bs _ => named_unpack l bs

end Reading.Gives

theorem Utf8.Fault.whole_text (f : Fault) : Whole f.text := by
  have hd : ∀ n, IsWhole ((Nat.toDigits 16 n).headD '0') := by
    intro n
    cases h : Nat.toDigits 16 n with
    | nil => decide
    | cons c rest =>
      have hc : c ∈ Nat.toDigits 16 n := h ▸ List.mem_cons_self
      exact isWhole_of_isPlain (Ascii.isPlain_of_mem_toDigits (by decide) n c hc)
  have hh : ∀ b, Whole (hexByte b) := by
    intro b
    unfold hexByte
    exact whole_ofList.mpr (List.forall_mem_cons.mpr ⟨hd _, List.forall_mem_cons.mpr ⟨hd _, nofun⟩⟩)
  have hr : Whole f.reason.text := by
    cases f.reason <;> decide
  unfold text
  extract_lets place
  have hp : Whole place := by
    dsimp only [place]
    split
    · simp only [whole_append, and_assoc]
      exact ⟨by decide, hh _, by decide, whole_nat _⟩
    · simp only [whole_append, and_assoc]
      exact ⟨by decide, whole_nat _, by decide, whole_nat _⟩
  simp only [whole_append, and_assoc]
  exact ⟨by decide, hp, by decide, hr⟩

open Reading

namespace Read

variable {typeName : String}

theorem length_gives (ht : Whole typeName) : (length typeName).Gives fun _ => True := by
  refine .bind (.int .i32) fun n _ => ?_
  split
  · refine .bind (P := fun _ => True) (.throw (.of_message rfl ?_)) fun _ _ => .pure trivial
    change Whole ("negative length " ++ toString n ++ " while reading " ++ typeName)
    simp only [whole_append, and_assoc]
    exact ⟨by decide, whole_int _, by decide, ht⟩
  · exact .pure trivial

theorem countFault?_worded (ht : Whole typeName) {count width left : Int} {f : Failure}
    (h : countFault? typeName count width left = some f) : f.Worded := by
  unfold countFault? at h
  split at h
  · split at h
    · cases h
      refine .of_message rfl ?_
      change Whole (typeName ++ " declares " ++ toString count.toNat ++ " zero-width elements (limit "
        ++ toString maxZeroWidthCount ++ ")")
      simp only [whole_append, and_assoc]
      exact ⟨ht, by decide, whole_nat _, by decide, whole_nat _, by decide⟩
    · cases h
  · split at h
    · cases h
      exact underflow_worded _ _
    · cases h

theorem checkCount_gives (ht : Whole typeName) (count width : Nat) :
    (checkCount count width typeName).Gives fun _ => True := by
  unfold checkCount
  extract_lets settle
  have hs : ∀ left, (settle left).Gives fun _ => True := by
    intro left
    dsimp only [settle]
    split
    · rename_i f hf
      exact .throw (countFault?_worded ht hf)
    · exact .pure trivial
  split
  · exact .bind (P := fun _ => True) (.pure trivial) fun left _ => hs left
  · exact .bind .remaining fun left _ => hs left

theorem wrongDiscriminant_worded (ht : Whole typeName) (found : Int) (count : Nat) :
    (Failure.discriminant typeName found count).Worded := by
  refine .of_message rfl ?_
  change Whole ("invalid discriminant " ++ toString found ++ " for " ++ typeName ++ " (expected 1.." ++ toString count
    ++ ")")
  simp only [whole_append, and_assoc]
  exact ⟨by decide, whole_int _, by decide, ht, by decide, whole_nat _, by decide⟩

theorem discriminant_gives (ht : Whole typeName) (count : Nat) :
    (discriminant typeName count).Gives fun _ => True := by
  refine .bind (.int .i32) fun d _ => ?_
  split
  · exact .pure trivial
  · exact .throw (wrongDiscriminant_worded ht _ _)

theorem boolean_gives : boolean.Gives Value.Named := by
  refine .bind (.int .i8) fun b _ => ?_
  split
  · exact .pure trivial
  split
  · exact .pure trivial
  · refine .throw (.of_message rfl ?_)
    change Whole ("unexpected byte " ++ toString b ++ " for Boolean")
    simp only [whole_append, and_assoc]
    exact ⟨by decide, whole_int _, by decide⟩

theorem text_gives : text.Gives fun v => ∃ s, v = .text s := by
  refine .bind (length_gives (by decide)) fun n _ => .bind (.take _) fun raw _ => ?_
  split
  · exact .pure ⟨_, rfl⟩
  · rename_i fault _
    refine .throw (.of_message rfl ?_)
    change Whole ("invalid UTF-8 in String: " ++ fault.text)
    exact whole_append.mpr ⟨by decide, fault.whole_text⟩

theorem bytes_gives : bytes.Gives Value.Named :=
  .bind (length_gives (by decide)) fun _ _ => .bind (.take _) fun _ _ => .pure trivial

theorem nanos_gives (ht : Whole typeName) : (nanos typeName).Gives fun _ => True := by
  refine .bind (.int .u32) fun i _ => ?_
  extract_lets n finish
  split
  · refine .bind (P := fun _ => True) (.throw (.of_message rfl ?_)) fun _ _ => .pure trivial
    change Whole ("nanosecond field " ++ toString n ++ " out of range for " ++ typeName)
    simp only [whole_append, and_assoc]
    exact ⟨by decide, whole_nat _, by decide, ht⟩
  · exact .pure trivial

theorem timestamp_gives : timestamp.Gives Value.Named := by
  refine .bind (.int .i64) fun seconds _ => .bind (nanos_gives (by decide)) fun n _ => ?_
  split
  · exact .pure trivial
  · refine .throw (.of_message rfl ?_)
    change Whole ("Timestamp " ++ toString seconds ++ "s is outside the datetime range")
    simp only [whole_append, and_assoc]
    exact ⟨by decide, whole_int _, by decide⟩

theorem duration_gives : duration.Gives Value.Named := by
  refine .bind (.int .u64) fun seconds _ => .bind (nanos_gives (by decide)) fun n _ => ?_
  extract_lets span
  split
  · exact .pure trivial
  · refine .throw (.of_message rfl ?_)
    change Whole ("Duration " ++ toString seconds.toNat ++ "s is outside the timedelta range")
    simp only [whole_append, and_assoc]
    exact ⟨by decide, whole_nat _, by decide⟩

theorem enumeration_gives {e : EnumType} (h : (Shape.enumeration e).Named) : (enumeration e).Gives Value.Named := by
  refine .bind (discriminant_gives h.1 _) fun i _ => ?_
  split
  · rename_i name value hm
    have hn := h.2 _ (List.mem_of_getElem? hm)
    exact .pure ⟨h.1, hn.1, hn.2⟩
  · exact .throw (wrongDiscriminant_worded h.1 _ _)

theorem errors_gives {name : String} {kinds : List String} (h : (Shape.errors name kinds).Named) :
    (errors name kinds).Gives Value.Named := by
  refine .bind (discriminant_gives h.1 _) fun i _ => ?_
  split
  · rename_i kind hk
    refine text_gives.bind fun message hm => ?_
    obtain ⟨s, rfl⟩ := hm
    exact .pure ⟨h.2 kind (List.mem_of_getElem? hk), trivial⟩
  · exact .throw (wrongDiscriminant_worded h.1 _ _)

theorem elements_gives {element : Reading Value} (he : element.Gives Value.Named) {n : Nat} {sofar : List Value}
    (hs : ∀ v ∈ sofar, v.Named) : (elements element n sofar).Gives NamedAll := by
  induction n generalizing sofar with
  | zero => exact .pure (namedAll_iff.mpr fun v hv => hs v (List.mem_reverse.mp hv))
  | succ n ih => exact .bind (he.orDrop _) fun v hv => ih (List.forall_mem_cons.mpr ⟨hv, hs⟩)

theorem named_insertEntry {k v : Value} {sofar : List (Value × Value)} (hk : k.Named) (hv : v.Named)
    (hs : NamedEntries sofar) : NamedEntries (Value.insertEntry k v sofar) := by
  induction sofar with
  | nil => exact ⟨hk, hv, trivial⟩
  | cons e rest ih =>
    obtain ⟨k', v'⟩ := e
    unfold Value.insertEntry
    split
    · exact ⟨hs.1, hv, hs.2.2⟩
    · exact ⟨hs.1, hs.2.1, ih hs.2.2⟩

theorem unhashable_worded {actual : String} (h : Whole actual) : (mismatch (.unhashable actual)).Worded := by
  refine .of_message rfl ?_
  change Whole ("unhashable type: '" ++ actual ++ "'")
  simp only [whole_append, and_assoc]
  exact ⟨by decide, h, by decide⟩

theorem addEntry_gives {k v : Value} {sofar : List (Value × Value)} (hk : k.Named) (hv : v.Named)
    (hs : NamedEntries sofar) : (addEntry k v sofar).Gives NamedEntries := by
  have hi := named_insertEntry hk hv hs
  unfold addEntry
  split
  · rename_i name hn
    exact .bind (.drop _) fun _ _ => .throw (unhashable_worded (k.whole_unhashable? hk name hn))
  · extract_lets finish
    split
    · exact .bind (.drop _) fun _ _ => .pure hi
    · exact .pure hi

theorem entries_gives {key value : Reading Value} (hk : key.Gives Value.Named) (hv : value.Gives Value.Named)
    {n : Nat} {sofar : List (Value × Value)} (hs : NamedEntries sofar) :
    (entries key value n sofar).Gives NamedEntries := by
  induction n generalizing sofar with
  | zero => exact .pure hs
  | succ n ih =>
    refine .bind (hk.orDrop _) fun k hk => .bind (hv.orDrop _) fun v hv => ?_
    exact .bind (addEntry_gives hk hv hs) fun _ hs => ih hs

theorem named_put {name : String} {v : Value} {sofar : List (String × Option Value)} (hn : Whole name) (hv : v.Named)
    (hs : NamedFields sofar) : NamedFields (Value.put name (some v) sofar) := by
  induction sofar with
  | nil => exact ⟨hn, hv, trivial⟩
  | cons f rest ih =>
    have hf := namedFields_iff.mp hs
    unfold Value.put
    split
    · exact namedFields_iff.mpr (List.forall_mem_cons.mpr
        ⟨⟨(hf f List.mem_cons_self).1, fun w hw => Option.some.inj hw ▸ hv⟩,
          fun g hg => hf g (List.mem_cons_of_mem f hg)⟩)
    · have hr := ih (namedFields_iff.mpr fun g hg => hf g (List.mem_cons_of_mem f hg))
      exact namedFields_iff.mpr (List.forall_mem_cons.mpr ⟨hf f List.mem_cons_self, namedFields_iff.mp hr⟩)

theorem addField_gives {name : String} {v : Value} {sofar : List (String × Option Value)} (hn : Whole name)
    (hv : v.Named) (hs : NamedFields sofar) : (addField name v sofar).Gives NamedFields := by
  have hp := named_put hn hv hs
  unfold addField
  extract_lets finish
  split
  · exact .bind (.drop _) fun _ _ => .pure hp
  · exact .pure hp

end Read

mutual

/-- A read gives a named value, or else fails in words. -/
theorem Shape.read_gives (impls : Implementations) : (s : Shape) → s.isPlain → s.Named →
    (s.read impls).Gives Value.Named
  | .integer k, _, _ => .scalar k.layout
  | .float32, _, _ => .scalar .f32
  | .float64, _, _ => .scalar .f64
  | .boolean, _, _ => Read.boolean_gives
  | .text, _, _ => Read.text_gives.mono fun _ ⟨_, hv⟩ => hv ▸ trivial
  | .bytes, _, _ => Read.bytes_gives
  | .timestamp, _, _ => Read.timestamp_gives
  | .duration, _, _ => Read.duration_gives
  | .optional inner, hp, hs => by
    refine .bind (.int .u8) fun flag _ => ?_
    split
    · exact .pure trivial
    split
    · exact inner.read_gives impls hp hs
    · refine .throw (.of_message rfl ?_)
      change Whole ("unexpected presence flag " ++ toString flag.toNat ++ " for " ++ (Shape.optional inner).typeName)
      simp only [whole_append, and_assoc]
      exact ⟨by decide, whole_nat _, by decide, (Shape.optional inner).whole_typeName hs⟩
  | .sequence inner, hp, hs => by
    have hn := (Shape.sequence inner).whole_typeName hs
    refine .bind (Read.length_gives hn) fun count _ => .bind (Read.checkCount_gives hn _ _) fun _ _ => ?_
    exact .bind (Read.elements_gives (inner.read_gives impls hp hs) nofun) fun _ hv => .pure hv
  | .map key value, hp, hs => by
    have hn := (Shape.map key value).whole_typeName hs
    simp only [Shape.isPlain, Bool.and_eq_true] at hp
    refine .bind (Read.length_gives hn) fun count _ => .bind (Read.checkCount_gives hn _ _) fun _ _ => ?_
    exact .bind (Read.entries_gives (key.read_gives impls hp.1 hs.1) (value.read_gives impls hp.2 hs.2) trivial)
      fun _ hv => .pure hv
  | .record cls _ fields, hp, hs =>
    .bind (fields.read_gives impls hp hs.2.2 trivial) fun _ hv => .pure ⟨hs.1, hv⟩
  | .enumeration _, _, hs => Read.enumeration_gives hs
  | .union _ variants, hp, hs =>
    .bind (Read.discriminant_gives hs.1 _) fun i _ => variants.read_gives impls hp hs.2 i
  | .errors _ _, _, hs => Read.errors_gives hs

theorem Fields.read_gives (impls : Implementations) : (fs : Fields) → fs.isPlain → fs.Named →
    {sofar : List (String × Option Value)} → NamedFields sofar → (fs.read impls sofar).Gives NamedFields
  | .nil, _, _, _, h => .pure h
  | .cons name shape rest, hp, hs, sofar, h => by
    simp only [Fields.isPlain, Bool.and_eq_true] at hp
    refine .bind ((shape.read_gives impls hp.1 hs.2.1).orDrop _) fun v hv => ?_
    exact .bind (Read.addField_gives hs.1 hv h) fun _ h => rest.read_gives impls hp.2 hs.2.2 h

theorem Variants.read_gives (impls : Implementations) : (vs : Variants) → vs.isPlain → vs.Named → (i : Nat) →
    (vs.read impls i).Gives Value.Named
  | .nil, _, _, _ => .pure trivial
  | .cons cls fields _, hp, hs, 0 => by
    simp only [Variants.isPlain, Bool.and_eq_true] at hp
    exact .bind (fields.read_gives impls hp.1 hs.2.1 trivial) fun _ hv => .pure ⟨hs.1, hv⟩
  | .cons _ _ rest, hp, hs, i + 1 => by
    simp only [Variants.isPlain, Bool.and_eq_true] at hp
    exact rest.read_gives impls hp.2 hs.2.2 i

end

end ForeignBridge
