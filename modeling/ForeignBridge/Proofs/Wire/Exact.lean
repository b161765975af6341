import ForeignBridge.Proofs.Wire.Reader

/-!
What a reading does on any bytes at all. Either it takes certain bytes, and takes the same ones whatever
follows them, or it fails; and where only some of the bytes that it would take are left, it fails for
want of bytes. Both are kept by every way of building a reading from others.
-/

namespace ForeignBridge

/-- Whether a failure says that bytes are malformed. -/
def Failure.IsMalformed : Failure → Prop
  | .underflow .. | .trailing .. | .discriminant .. | .invalidValue _ => True
  | _ => False

namespace Reading

variable {α β : Type} {x : Reading α} {f : α → Reading β} {bs cs part back : Bytes} {a : α} {b : β}

/-! ### Too few bytes -/

/-- A reading fails for want of bytes where these are the last ones. -/
def Short (x : Reading α) (part : Bytes) : Prop :=
  ∀ front dropped, ∃ needed left r, x (.between front part dropped) = .error (.underflow needed left) r

namespace Short

theorem bind (h : x.Short part) : (x >>= f).Short part := by
  intro front dropped
  obtain ⟨needed, left, r, hx⟩ := h front dropped
  exact ⟨needed, left, r, bind_of_error hx⟩

theorem map (g : α → β) (h : x.Short part) : (g <$> x).Short part := by
  intro front dropped
  obtain ⟨needed, left, r, hx⟩ := h front dropped
  exact ⟨needed, left, r, map_of_error hx⟩

theorem orDrop (held : Unit → List Nat) (h : x.Short part) : (x.orDrop held).Short part := by
  intro front dropped
  obtain ⟨needed, left, r, hx⟩ := h front dropped
  refine ⟨needed, left, { r with dropped := r.dropped ++ held () }, ?_⟩
  rw [Reading.orDrop, hx]

theorem takeScalar {l : Layout} (h : part.length < l.size) : (Reading.takeScalar l).Short part := by
  intro front dropped
  exact ⟨l.size, part.length, .between front part dropped, takeScalar_refused h front dropped⟩

theorem take {n : Nat} (h : part.length < n) : (Reading.take n).Short part := by
  intro front dropped
  exact ⟨n, part.length, .between front part dropped, take_refused h front dropped⟩

end Short

/-! ### Bytes that are taken -/

/-- A reading takes these bytes, whatever stands before and after them, and gives this; where they are cut
short it fails for want of bytes. What it drops while it reads is the same each time. -/
structure Takes (x : Reading α) (bs : Bytes) (a : α) : Prop where
  whole : ∃ ds, ∀ front back dropped,
    x (.between front (bs ++ back) dropped) = .ok a (.between (front ++ bs) back (dropped ++ ds))
  cut : ∀ part tail, tail ≠ [] → bs = part ++ tail → x.Short part

namespace Takes

theorem of_consumes (h : x.Consumes bs a) (hc : ∀ part tail, tail ≠ [] → bs = part ++ tail → x.Short part) :
    x.Takes bs a where
  whole := ⟨[], fun front back dropped => by rw [h, List.append_nil]⟩
  cut := hc

/-- What takes no byte cannot be cut short. -/
theorem of_nil (ds : List Nat)
    (h : ∀ front back dropped, x (.between front back dropped) = .ok a (.between front back (dropped ++ ds))) :
    x.Takes [] a where
  whole := ⟨ds, fun front back dropped => by rw [List.nil_append, h, List.append_nil]⟩
  cut := fun part tail ht he => absurd (List.append_eq_nil_iff.mp he.symm).2 ht

theorem pure (a : α) : (Pure.pure a : Reading α).Takes [] a :=
  of_nil [] fun front back dropped => by rw [List.append_nil]; rfl

theorem drop (pointers : List Nat) : (Reading.drop pointers).Takes [] () :=
  of_nil pointers fun _ _ _ => rfl

/-- Bytes of two readings are cut short in those of the first or in those of the second. -/
theorem bind (hx : x.Takes bs a) (hf : (f a).Takes cs b) : (x >>= f).Takes (bs ++ cs) b := by
  obtain ⟨ds, hds⟩ := hx.whole
  obtain ⟨es, hes⟩ := hf.whole
  constructor
  · refine ⟨ds ++ es, fun front back dropped => ?_⟩
    rw [List.append_assoc, bind_of_ok (hds front (cs ++ back) dropped), hes, List.append_assoc, List.append_assoc]
  · intro part tail ht he
    obtain ⟨ms, rfl, rfl⟩ | ⟨ms, rfl, rfl⟩ := List.append_eq_append_iff.mp he
    · intro front dropped
      obtain ⟨needed, left, r, h⟩ := hf.cut ms tail ht rfl (front ++ bs) (dropped ++ ds)
      exact ⟨needed, left, r, (bind_of_ok (hds front ms dropped)).trans h⟩
    · rcases List.eq_nil_or_concat ms with rfl | ⟨init, last, rfl⟩
      · intro front dropped
        obtain ⟨needed, left, r, h⟩ := hf.cut [] cs ht rfl (front ++ part) (dropped ++ ds)
        have hw := hds front [] dropped
        rw [List.append_nil, List.append_nil] at hw
        exact ⟨needed, left, r, (bind_of_ok hw).trans h⟩
      · exact (hx.cut part (init.concat last) (by simp) rfl).bind

/-- A reading that takes some bytes and then no more. -/
theorem finish (hx : x.Takes bs a) (hf : (f a).Takes [] b) : (x >>= f).Takes bs b := by
  have h := hx.bind hf
  rwa [List.append_nil] at h

/-- A reading that takes no bytes and then some. -/
theorem after (hx : x.Takes [] a) (hf : (f a).Takes bs b) : (x >>= f).Takes bs b := hx.bind hf

theorem map (g : α → β) (hx : x.Takes bs a) : (g <$> x).Takes bs (g a) where
  whole := by
    obtain ⟨ds, hds⟩ := hx.whole
    refine ⟨ds, fun front back dropped => ?_⟩
    change EStateM.map g x _ = _
    rw [EStateM.map, hds]
  cut := fun part tail ht he => (hx.cut part tail ht he).map g

theorem orDrop (held : Unit → List Nat) (hx : x.Takes bs a) : (x.orDrop held).Takes bs a where
  whole := by
    obtain ⟨ds, hds⟩ := hx.whole
    refine ⟨ds, fun front back dropped => ?_⟩
    rw [Reading.orDrop, hds]
  cut := fun part tail ht he => (hx.cut part tail ht he).orDrop held

/-- What takes bytes takes them from the start of a buffer. -/
theorem ofBytes (hx : x.Takes bs a) : ∃ ds, ∀ rest, x (.ofBytes (bs ++ rest)) = .ok a (.between bs rest ds) := by
  obtain ⟨ds, hds⟩ := hx.whole
  exact ⟨ds, fun rest => by simpa [Reader.ofBytes_eq] using hds [] rest []⟩

/-- Of a buffer of just these bytes nothing is left. -/
theorem all (hx : x.Takes bs a) : ∃ ds, x (.ofBytes bs) = .ok a (.between bs [] ds) := by
  obtain ⟨ds, hds⟩ := hx.ofBytes
  have h := hds []
  rw [List.append_nil] at h
  exact ⟨ds, h⟩

theorem length_lt {tail : Bytes} (ht : tail ≠ []) (h : bs = part ++ tail) : part.length < bs.length := by
  have := List.length_pos_iff.mpr ht
  rw [h, List.length_append]
  omega

theorem takeScalar {l : Layout} (h : bs.length = l.size) : (Reading.takeScalar l).Takes bs bs :=
  of_consumes (.takeScalar h) fun _ _ ht he => .takeScalar (h ▸ length_lt ht he)

theorem take : (Reading.take bs.length).Takes bs bs :=
  of_consumes .take fun _ _ ht he => .take (length_lt ht he)

/-- A declared count does not stop a reading whose bytes it fits; cut short they may be too few for it. -/
theorem checkCount {count width : Nat} (hx : x.Takes bs a) (hw : count * width ≤ bs.length)
    (hz : width = 0 → count ≤ maxZeroWidthCount) (typeName : String) :
    (do Read.checkCount count width typeName; x).Takes bs a where
  whole := by
    obtain ⟨ds, hds⟩ := hx.whole
    refine ⟨ds, fun front back dropped => ?_⟩
    obtain ⟨-, -, hc⟩ | ⟨hb, -⟩ | ⟨h₀, hm, -⟩ :=
      Read.checkCount_cases count width typeName front (bs ++ back) dropped
    · exact (bind_of_ok hc).trans (hds front back dropped)
    · rw [List.length_append] at hb
      omega
    · exact absurd (hz h₀) (Nat.not_le.mpr hm)
  cut := by
    intro part tail ht he front dropped
    obtain ⟨-, -, hc⟩ | ⟨-, hc⟩ | ⟨h₀, hm, -⟩ := Read.checkCount_cases count width typeName front part dropped
    · obtain ⟨needed, left, r, h⟩ := hx.cut part tail ht he front dropped
      exact ⟨needed, left, r, (bind_of_ok hc).trans h⟩
    · exact ⟨_, _, _, bind_of_error hc⟩
    · exact absurd (hz h₀) (Nat.not_le.mpr hm)

end Takes

/-! ### Any bytes -/

/-- On any bytes a reading takes some of them, which with its result are such, or fails in such a way. -/
def Exact (x : Reading α) (E : Failure → Prop) (Q : Bytes → α → Prop) : Prop :=
  ∀ front back dropped,
    (∃ bs rest a, back = bs ++ rest ∧ x.Takes bs a ∧ Q bs a) ∨
      ∃ f r, x (.between front back dropped) = .error f r ∧ E f

namespace Exact

variable {E : Failure → Prop} {P Q : Bytes → α → Prop} {R : Bytes → β → Prop}

theorem of_takes (h : x.Takes [] a) (hq : Q [] a) : x.Exact E Q :=
  fun _ back _ => .inl ⟨[], back, a, rfl, h, hq⟩

theorem pure (hq : Q [] a) : (Pure.pure a : Reading α).Exact E Q := of_takes (.pure a) hq

theorem throw {e : Failure} (he : E e) : (throw e : Reading α).Exact E Q :=
  fun front back dropped => .inr ⟨e, .between front back dropped, rfl, he⟩

theorem mono (hx : x.Exact E P) (h : ∀ bs a, P bs a → Q bs a) : x.Exact E Q := by
  intro front back dropped
  obtain ⟨bs, rest, a, hb, ht, hp⟩ | hf := hx front back dropped
  · exact .inl ⟨bs, rest, a, hb, ht, h bs a hp⟩
  · exact .inr hf

/-- Where a result counts only for what it is, it may count for what was taken as well. -/
theorem takes (hx : x.Exact E Q) : x.Exact E fun bs a => x.Takes bs a ∧ Q bs a := by
  intro front back dropped
  obtain ⟨bs, rest, a, hb, ht, hq⟩ | hf := hx front back dropped
  · exact .inl ⟨bs, rest, a, hb, ht, ht, hq⟩
  · exact .inr hf

theorem bind (hx : x.Exact E P) (hf : ∀ bs a, P bs a → (f a).Exact E fun cs b => R (bs ++ cs) b) :
    (x >>= f).Exact E R := by
  intro front back dropped
  obtain ⟨bs, rest, a, rfl, ht, hp⟩ | ⟨e, r, he, hE⟩ := hx front back dropped
  · obtain ⟨ds, hds⟩ := ht.whole
    obtain ⟨cs, rest, b, rfl, ht', hr⟩ | ⟨e, r, he, hE⟩ := hf bs a hp (front ++ bs) rest (dropped ++ ds)
    · exact .inl ⟨bs ++ cs, rest, b, (List.append_assoc ..).symm, ht.bind ht', hr⟩
    · exact .inr ⟨e, r, (bind_of_ok (hds front rest dropped)).trans he, hE⟩
  · exact .inr ⟨e, r, bind_of_error he, hE⟩

theorem map (g : α → β) (hx : x.Exact E P) (h : ∀ bs a, P bs a → R bs (g a)) : (g <$> x).Exact E R := by
  intro front back dropped
  obtain ⟨bs, rest, a, hb, ht, hp⟩ | ⟨e, r, he, hE⟩ := hx front back dropped
  · exact .inl ⟨bs, rest, g a, hb, ht.map g, h bs a hp⟩
  · refine .inr ⟨e, r, ?_, hE⟩
    change EStateM.map g x _ = _
    rw [EStateM.map, he]

theorem orDrop (held : Unit → List Nat) (hx : x.Exact E Q) : (x.orDrop held).Exact E Q := by
  intro front back dropped
  obtain ⟨bs, rest, a, hb, ht, hq⟩ | ⟨e, r, he, hE⟩ := hx front back dropped
  · exact .inl ⟨bs, rest, a, hb, ht.orDrop held, hq⟩
  · refine .inr ⟨e, { r with dropped := r.dropped ++ held () }, ?_, hE⟩
    rw [Reading.orDrop, he]

variable (hE : ∀ e, e.IsMalformed → E e)
include hE

theorem of_short (h : x.Short back) (front : Bytes) (dropped : List Nat) :
    ∃ e r, x (.between front back dropped) = .error e r ∧ E e := by
  obtain ⟨needed, left, r, hx⟩ := h front dropped
  exact ⟨.underflow needed left, r, hx, hE _ trivial⟩

theorem takeScalar (l : Layout) : (Reading.takeScalar l).Exact E fun bs a => bs.length = l.size ∧ a = bs := by
  intro front back dropped
  rcases Nat.lt_or_ge back.length l.size with h | h
  · exact .inr (of_short hE (.takeScalar h) front dropped)
  · have hl : (back.take l.size).length = l.size := List.length_take_of_le h
    exact .inl ⟨_, back.drop l.size, _, (List.take_append_drop _ _).symm, .takeScalar hl, hl, rfl⟩

theorem take (n : Nat) : (Reading.take n).Exact E fun bs a => bs.length = n ∧ a = bs := by
  intro front back dropped
  rcases Nat.lt_or_ge back.length n with h | h
  · exact .inr (of_short hE (.take h) front dropped)
  · have hl : (back.take n).length = n := List.length_take_of_le h
    have ht : (Reading.take (back.take n).length).Takes (back.take n) (back.take n) := .take
    rw [hl] at ht
    exact .inl ⟨_, back.drop n, _, (List.take_append_drop _ _).symm, ht, hl, rfl⟩

/-- A declared count is one that the bytes taken can hold, if they take so many as it says. -/
theorem checkCount {count width : Nat} (hx : x.Exact E Q) (hw : ∀ bs a, Q bs a → count * width ≤ bs.length)
    (typeName : String) : (do Read.checkCount count width typeName; x).Exact E fun bs a =>
      Q bs a ∧ (width = 0 → count ≤ maxZeroWidthCount) := by
  intro front back dropped
  obtain ⟨-, hz, hc⟩ | ⟨-, hc⟩ | ⟨-, -, hc⟩ := Read.checkCount_cases count width typeName front back dropped
  · obtain ⟨bs, rest, a, hb, ht, hq⟩ | ⟨e, r, he, hr⟩ := hx front back dropped
    · exact .inl ⟨bs, rest, a, hb, ht.checkCount (hw bs a hq) hz typeName, hq, hz⟩
    · exact .inr ⟨e, r, (bind_of_ok hc).trans he, hr⟩
  · exact .inr ⟨_, _, bind_of_error hc, hE _ trivial⟩
  · exact .inr ⟨_, _, bind_of_error hc, hE _ trivial⟩

end Exact

end Reading

end ForeignBridge
