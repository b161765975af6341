import ForeignBridge.Proofs.Wire.Readback

/-!
The round trip: what is written of a value that passes the check is read back as its canonical form,
between any other bytes. What `Shape.Carries` says of the value as a whole says of each part that it is written
to its end and read back.
-/

namespace ForeignBridge

open Script

/-- A value that there is, which is written to its end and read back. -/
def Shape.Crosses (s : Shape) (v : Value) : Prop := s.Genuine v ∧ s.Fits v ∧ s.Readable v

theorem Carries.text_genuine {v : Value} (h : Carries.text v) : Genuine.text v := by
  rintro s rfl
  exact absurd h id

theorem Moment.crosses {t u : Moment} (h : t.instant?.bind ofInstant? = some u) :
    Shape.timestamp.Crosses (.moment t) := by
  obtain ⟨i, hi, hu⟩ := Option.bind_eq_some_iff.mp h
  have hb : Calendar.firstInstant ≤ i ∧ i ≤ Calendar.lastInstant := by
    by_contra hn
    rw [ofInstant?, if_neg hn] at hu
    cases hu
  refine ⟨?_, trivial, ?_⟩
  · rintro _ j ⟨⟩ hj
    rw [hi] at hj
    cases hj
    exact Write.seconds_bounds hb.1 hb.2
  · rintro _ j ⟨⟩ hj
    rw [hi] at hj
    cases hj
    exact hb

mutual

theorem Shape.throughout_of_carries : (s : Shape) → {v : Value} → s.check v = .ok () → s.Carries v →
    s.Throughout Shape.Crosses v
  | .integer _, _, _, _ | .float32, _, _, _ | .boolean, _, _, _ | .bytes, _, _, _ | .object _, _, _, _
  | .callback _ _ _, _, _, _ =>
    (Shape.throughout_leaf rfl).mpr ⟨trivial, trivial, trivial⟩
  | .float64, _, _, hc => (Shape.throughout_leaf rfl).mpr ⟨trivial, hc, trivial⟩
  | .text, _, _, hc => (Shape.throughout_leaf rfl).mpr ⟨Carries.text_genuine hc, hc, trivial⟩
  | .timestamp, v, _, hc => by
    obtain ⟨t, u, rfl, hu⟩ := hc
    exact (Shape.throughout_leaf rfl).mpr (Moment.crosses hu)
  | .duration, v, _, hc => by
    obtain ⟨s, rfl, hr⟩ := hc
    refine (Shape.throughout_leaf rfl).mpr ⟨?_, trivial, trivial⟩
    rintro _ ⟨⟩
    exact hr
  | .enumeration e, v, _, hc => by
    obtain ⟨hn, name, value, rfl, hm⟩ := hc
    refine (Shape.throughout_leaf rfl).mpr ⟨?_, ?_, trivial⟩
    · rintro _ _ ⟨⟩
      exact hm
    · rintro _ _ i ⟨⟩ hi
      obtain ⟨j, hj, hv⟩ := Value.lookup_index hm
      cases hi.symm.trans hj
      have hl : i < e.members.length := (List.getElem?_eq_some_iff.mp hv).1
      exact Nat.le_trans hl hn
  | .errors name kinds, v, _, hc => by
    obtain ⟨hn, kind, message, rfl, ht⟩ := hc
    refine (Shape.throughout_leaf rfl).mpr ⟨?_, ?_, trivial⟩
    · rintro _ _ ⟨⟩
      exact Carries.text_genuine ht
    · rintro _ _ ⟨⟩
      exact ⟨fun i hi => Nat.le_trans (lastIndex?_lt hi) hn, ht⟩
  | .optional inner, v, h, hc => by
    by_cases hv : v = .null
    · subst hv
      simp [Shape.Throughout, Shape.parts]
    · rw [Shape.Carries] at hc
      · exact (Shape.throughout_optional hv).mpr (inner.throughout_of_carries (Shape.check_optional h hv) hc)
      · exact hv
  | .sequence inner, v, h, hc => by
    obtain ⟨items, hv, -, hi⟩ := Shape.check_sequence h
    have hcs : Carries.count items.length inner.minWidth ∧ ∀ a ∈ items, inner.Carries a := by
      obtain rfl | rfl := hv <;> exact hc
    refine (Shape.throughout_sequence hv).mpr ⟨⟨trivial, trivial, ?_⟩, fun a ha =>
      inner.throughout_of_carries (hi a ha) (hcs.2 a ha)⟩
    intro n hn
    obtain rfl | rfl := hv <;> cases hn <;> exact hcs.1
  | .map key value, v, h, hc => by
    obtain ⟨entries, rfl, -, he⟩ := Shape.check_map h
    obtain ⟨hn, hc⟩ := hc
    refine Shape.throughout_map.mpr ⟨⟨trivial, trivial, ?_⟩, fun e hm =>
      ⟨key.throughout_of_carries (he e hm).1 (hc e hm).1.1, value.throughout_of_carries (he e hm).2 (hc e hm).2⟩⟩
    rintro _ ⟨⟩
    exact ⟨hn, fun e hm => (hc e hm).1.2⟩
  | .record cls label fields, v, h, hc =>
    Shape.throughout_record.mpr ⟨⟨trivial, trivial, trivial⟩,
      fields.throughout_of_carries (Shape.check_record h).2 hc⟩
  | .union name variants, v, h, hc => by
    obtain ⟨cls, bases, fields, i, rfl, hi, hv⟩ := Shape.check_union h
    refine (Shape.throughout_union hi).mpr ⟨⟨trivial, ?_, trivial⟩, variants.throughout_of_carries i hv (hc.2 i hi)⟩
    rintro _ _ _ j ⟨⟩ hj
    exact Nat.le_trans (variants.lastIndex?_lt_size hj) hc.1

theorem Fields.throughout_of_carries : (fs : Fields) → {v : Value} → fs.check v = .ok () → fs.Carries v →
    fs.Throughout Shape.Crosses v
  | .nil, _, _, _ => by simp [Fields.Throughout, Fields.parts]
  | .cons name shape rest, v, h, hc => by
    obtain ⟨a, ha, hca, hr⟩ := Fields.check_cons h
    exact (Fields.throughout_cons ha).mpr
      ⟨shape.throughout_of_carries hca (hc.1 a ha), rest.throughout_of_carries hr hc.2⟩

theorem Variants.throughout_of_carries : (vs : Variants) → (i : Nat) → {v : Value} → vs.check i v = .ok () →
    vs.Carries i v → vs.Throughout Shape.Crosses i v
  | .nil, _, _, _, _ => by simp [Variants.Throughout, Variants.parts]
  | .cons _ fields _, 0, _, h, hc => fields.throughout_of_carries h hc
  | .cons _ _ rest, i + 1, _, h, hc => rest.throughout_of_carries i h hc

end

namespace Shape

/-- What is written of a value is read back as its canonical form, between any other bytes. -/
theorem write_restores (impls : Implementations) (s : Shape) (hs : s.isPlain) (v : Value) (h : s.check v = .ok ())
    (hc : s.Carries v) : (s.write v).Restores (s.read impls) (s.canon v) := by
  have ht := s.throughout_of_carries h hc
  have hw := s.write_restoresIf impls hs v h (ht.imp fun _ _ hp => hp.1) (ht.imp fun _ _ hp => hp.2.1)
  exact hw.restores (ht.imp fun _ _ hp => hp.2.2)

theorem readAll_of_consumes {s : Shape} {impls : Implementations} {bs : Bytes} {a : Value}
    (h : (s.read impls).Consumes bs a) :
    s.readAll impls (.ofBytes bs) = .ok a (.between bs [] []) := by
  have hr : s.read impls (.ofBytes bs) = .ok a (.between bs [] []) := by
    simpa [Reader.ofBytes_eq] using h [] [] []
  exact (Reading.bind_of_ok hr).trans (Read.requireEnd_ok s.typeName a bs [])

/-- What is written and read back is encoded and decoded. -/
theorem encode_of_restores {s : Shape} {impls : Implementations} {v a : Value} (h : s.check v = .ok ())
    (hr : (s.write v).Restores (s.read impls) a) : s.encode v = .ok (s.write v).leadingBytes := by
  rw [encode, h]
  dsimp only [bind, Except.bind]
  rw [hr.1]

theorem decode_of_restores {s : Shape} {v a : Value} (hr : (s.write v).Restores (s.read .none) a) :
    s.decode (s.write v).leadingBytes = .ok a := by
  rw [decode, readAll_of_consumes hr.2]

/-- The shape of a log: entries by name, some of them missing. -/
def log : Shape :=
  .map .text (.sequence (.optional (.record "Entry" "Entry" (.cons "level" .float32 (.cons "at" .timestamp .nil)))))

/-- A log with one entry, an hour east of UTC. -/
def logged : Value :=
  .dict [(.text "a", .tuple [.null, .record "Entry" []
    [("level", some (.int 3)), ("at", some (.moment ⟨2020, 1, 1, 0, 30, 0, 0, some 3600⟩))]])]

end Shape

end ForeignBridge
