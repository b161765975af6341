import ForeignBridge.Proofs.Wire.Complete

/-!
Decoding: which bytes are decoded and to what, how all others are refused, and that what is decoded can be
neither cut short nor added to.
-/

namespace ForeignBridge

open Reading

/-- A value does not stand where bytes are left behind it. -/
theorem Read.requireEnd_trailing {back : Bytes} (h : back ≠ []) (typeName : String) (v : Value) (front : Bytes)
    (dropped : List Nat) : requireEnd typeName v (.between front back dropped) =
      .error (.trailing back.length (some typeName)) (.between front back (dropped ++ v.held)) := by
  have hl : ¬ (back.length : Int) = 0 := by
    simpa using h
  refine (Reading.bind_of_ok (Reading.remaining_between front back dropped)).trans ?_
  dsimp only
  rw [if_pos hl]
  rfl

theorem Failure.IsMalformed.className {f : Failure} (h : f.IsMalformed) : f.className ∈
    ["BufferUnderflowError", "TrailingBytesError", "InvalidDiscriminantError", "InvalidValueError"] := by
  cases f with
  | underflow | trailing | discriminant | invalidValue => simp [Failure.className]
  | _ => exact absurd h id

namespace Shape

variable {s : Shape} {impls : Implementations} {data rest : Bytes} {v : Value}

theorem readAll_trailing (h : (s.read impls).Takes data v) (hr : rest ≠ []) :
    ∃ r, s.readAll impls (.ofBytes (data ++ rest)) = .error (.trailing rest.length (some s.typeName)) r := by
  obtain ⟨ds, hds⟩ := h.ofBytes
  exact ⟨_, (bind_of_ok (hds rest)).trans (Read.requireEnd_trailing hr s.typeName v data ds)⟩

/-- Bytes are taken to their end, and are those of a value, or else they are not read. -/
theorem readAll_cases {E : Failure → Prop} (hE : ∀ e, e.IsMalformed → E e)
    (impls : Implementations) (hs : impls.Excuses E ∨ s.isPlain ∧ s.hasKeys) (data : Bytes) :
    (∃ v, (s.read impls).Takes data v ∧ s.Denotes impls data v) ∨
      ∃ f r, s.readAll impls (.ofBytes data) = .error f r ∧ E f := by
  obtain ⟨bs, rest, v, rfl, ht, hd⟩ | ⟨f, r, hf, he⟩ := s.read_exact hE impls hs [] data []
  · rcases List.eq_nil_or_concat rest with rfl | ⟨init, last, rfl⟩
    · rw [List.append_nil]
      exact .inl ⟨v, ht, hd⟩
    · have hn : init.concat last ≠ [] := by simp
      obtain ⟨r, hr⟩ := readAll_trailing ht hn
      exact .inr ⟨_, r, hr, hE _ trivial⟩
  · exact .inr ⟨f, r, bind_of_error hf, he⟩

/-- Bytes that are read to their end are taken, and are those of the value. -/
theorem takes_of_readAll {r : Reader} (h : s.readAll impls (.ofBytes data) = .ok v r) :
    (s.read impls).Takes data v ∧ s.Denotes impls data v := by
  obtain ⟨v', ht, hd⟩ | ⟨f, r', hf, -⟩ := readAll_cases (s := s) (E := fun _ => True) (fun _ _ => trivial)
    impls (.inl ⟨fun _ => trivial, fun _ _ _ _ => trivial⟩) data
  · obtain ⟨r', hr⟩ := readAll_of_takes ht
    rw [hr] at h
    cases h
    exact ⟨ht, hd⟩
  · rw [hf] at h
    cases h

theorem takes_of_decode (h : s.decode data = .ok v) : (s.read .none).Takes data v ∧ s.Denotes .none data v := by
  unfold decode at h
  split at h
  · rename_i r hr
    cases h
    exact takes_of_readAll hr
  · cases h

end Shape

mutual

/-- Keys of keys are hashable, whatever bytes they come from. -/
theorem Shape.hashableKeys : (s : Shape) → s.hasKeys → s.HashableKeys
  | .optional inner, h | .sequence inner, h => inner.hashableKeys h
  | .map key value, h => by
    simp only [Shape.hasKeys, Bool.and_eq_true] at h
    exact ⟨key.hashableKeys (Shape.hasKeys_of_isKey h.1), value.hashableKeys h.2,
      fun data k hk => Shape.hashable_of_isKey h.1 (Shape.takes_of_decode hk).2⟩
  | .record _ _ fields, h => fields.hashableKeys h
  | .union _ variants, h => variants.hashableKeys h
  | .integer _, _ | .float32, _ | .float64, _ | .boolean, _ | .text, _ | .bytes, _ | .timestamp, _
  | .duration, _ | .enumeration _, _ | .errors .., _ | .object _, _ | .callback .., _ => trivial

theorem Fields.hashableKeys : (fs : Fields) → fs.hasKeys → fs.HashableKeys
  | .nil, _ => trivial
  | .cons _ shape rest, h => by
    simp only [Fields.hasKeys, Bool.and_eq_true] at h
    exact ⟨shape.hashableKeys h.1, rest.hashableKeys h.2⟩

theorem Variants.hashableKeys : (vs : Variants) → vs.hasKeys → vs.HashableKeys
  | .nil, _ => trivial
  | .cons _ fields rest, h => by
    simp only [Variants.hasKeys, Bool.and_eq_true] at h
    exact ⟨fields.hashableKeys h.1, rest.hashableKeys h.2⟩

end

namespace Shape

variable {s : Shape} {data : Bytes} {v : Value}

/-- The shape of switches by number. -/
def switches : Shape := .map (.integer .int8) .boolean

/-- Two switches of the same number. -/
def switchedTwice : Bytes := [0, 0, 0, 2, 5, 0, 5, 1]

/-- The decoder accepts the grammar: bytes are decoded to a value just if they denote it. -/
theorem decode_iff_denotes (hk : s.HashableKeys) : s.decode data = .ok v ↔ s.Denotes .none data v :=
  ⟨fun h => (takes_of_decode h).2, fun h => decode_of_takes (s.read_takes hk h)⟩

theorem decode_iff_denotes_switches : switches.HashableKeys ∧
    switches.Denotes .none switchedTwice (.dict [(.int 5, .bool true)]) := by
  have hk : switches.HashableKeys := switches.hashableKeys rfl
  exact ⟨hk, (decode_iff_denotes hk).mp (by with_unfolding_all rfl)⟩

/-- Whatever the bytes, they are decoded, or a failure says that they are malformed. -/
theorem decode_or_malformed (hp : s.isPlain) (hk : s.hasKeys) (data : Bytes) : (∃ v, s.decode data = .ok v) ∨
    ∃ f, s.decode data = .error f ∧ f.IsMalformed ∧ f.className ∈
      ["BufferUnderflowError", "TrailingBytesError", "InvalidDiscriminantError", "InvalidValueError"] := by
  obtain ⟨v, ht, -⟩ | ⟨f, r, hf, he⟩ := readAll_cases (fun _ h => h) .none (.inr ⟨hp, hk⟩) data
  · exact .inl ⟨v, decode_of_takes ht⟩
  · refine .inr ⟨f, ?_, he, he.className⟩
    rw [decode, hf]

theorem decode_or_malformed_switches : switches.isPlain ∧ switches.hasKeys ∧
    ∃ f, switches.decode [255, 255, 255, 255] = .error f ∧ f.IsMalformed := by
  refine ⟨rfl, rfl, ?_⟩
  obtain ⟨v, h⟩ | ⟨f, h, hm, -⟩ := decode_or_malformed (s := switches) rfl rfl [255, 255, 255, 255]
  · cases h
  · exact ⟨f, h, hm⟩

/-- Bytes that are decoded are too few where any of them are cut off the end, and too many with any others
behind them, which the failure counts. -/
theorem decode_neither_cut_nor_extended (h : s.decode data = .ok v) :
    (∀ part tail, tail ≠ [] → data = part ++ tail →
      ∃ needed left, s.decode part = .error (.underflow needed left)) ∧
    ∀ rest, rest ≠ [] → s.decode (data ++ rest) = .error (.trailing rest.length (some s.typeName)) := by
  obtain ⟨ht, -⟩ := takes_of_decode h
  constructor
  · intro part tail htail he
    obtain ⟨needed, left, r, hr⟩ := ht.cut part tail htail he [] []
    have hread : s.readAll .none (.ofBytes part) = .error (.underflow needed left) r := bind_of_error hr
    exact ⟨needed, left, by rw [decode, hread]⟩
  · intro rest hrest
    obtain ⟨r, hr⟩ := readAll_trailing ht hrest
    rw [decode, hr]

theorem decode_neither_cut_nor_extended_switches :
    switches.decode switchedTwice = .ok (.dict [(.int 5, .bool true)]) ∧
      switches.decode (switchedTwice ++ [7]) = .error (.trailing 1 (some switches.typeName)) := by
  have h : switches.decode switchedTwice = .ok (.dict [(.int 5, .bool true)]) := by
    with_unfolding_all rfl
  exact ⟨h, (decode_neither_cut_nor_extended h).2 [7] (by decide)⟩

end Shape

end ForeignBridge
