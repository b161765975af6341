import ForeignBridge.Proofs.Wire.Progress

/-!
Counts. A declared count is held against the bytes left before any element is read. Where elements take bytes, reading
them without that look succeeds on the same readers and comes to the same: too large a count would be noticed later, when
the bytes run out.
-/

namespace ForeignBridge

namespace Reading

variable {α β : Type}

/-- Two readings succeed on the same readers, and then give the same and leave the same reader. -/
def SameSuccesses (x y : Reading α) : Prop := ∀ r a r', x r = .ok a r' ↔ y r = .ok a r'

theorem bind_eq_ok {x : Reading α} {f : α → Reading β} {r r' : Reader} {b : β} :
    (x >>= f) r = .ok b r' ↔ ∃ a v, x r = .ok a v ∧ f a v = .ok b r' := by
  constructor
  · intro h
    cases hx : x r with
    | ok a v =>
      rw [bind_of_ok hx] at h
      exact ⟨a, v, rfl, h⟩
    | error e v =>
      rw [bind_of_error hx] at h
      cases h
  · rintro ⟨a, v, hx, hf⟩
    rw [bind_of_ok hx, hf]

theorem orDrop_eq_ok {x : Reading α} {held : Unit → List Nat} {r r' : Reader} {a : α} :
    x.orDrop held r = .ok a r' ↔ x r = .ok a r' := by
  rw [orDrop]
  cases x r with
  | ok b v => rfl
  | error e v =>
    constructor
    · intro h
      cases h
    · intro h
      cases h

namespace SameSuccesses

variable {x y : Reading α} {f g : α → Reading β}

theorem refl (x : Reading α) : x.SameSuccesses x := fun _ _ _ => Iff.rfl

theorem bind (hx : x.SameSuccesses y) (hf : ∀ a, (f a).SameSuccesses (g a)) : (x >>= f).SameSuccesses (y >>= g) := by
  intro r b r'
  simp only [bind_eq_ok, hx _ _ _, hf _ _ _ _]

theorem orDrop (hx : x.SameSuccesses y) (held : Unit → List Nat) : (x.orDrop held).SameSuccesses (y.orDrop held) := by
  intro r a r'
  rw [orDrop_eq_ok, orDrop_eq_ok]
  exact hx r a r'

end SameSuccesses

end Reading

open Reading

namespace Read

variable {α : Type} {r r₀ r₁ : Reader} {count width : Nat}

/-! ### The check -/

/-- A reader that is not released tells a count for which it has too few bytes. -/
theorem checkCount_of_pos (count : Nat) (hw : 0 < width) (typeName : String) (hr : r.released = false) :
    checkCount count width typeName r =
      if r.remaining < count * width then .error (.underflow (count * width) r.remaining) r else .ok () r := by
  have hremaining : Reading.remaining r = .ok r.remaining r := by
    rw [Reading.remaining, hr]
    rfl
  rw [checkCount, if_neg (Nat.pos_iff_ne_zero.mp hw)]
  apply (bind_of_ok hremaining).trans
  simp only [countFault?_of_pos typeName (Int.natCast_pos.mpr hw)]
  split <;> rfl

theorem length_of_released (typeName : String) (hr : r.released) : length typeName r = .error .readerReleased r := by
  have hint : Reading.int .i32 r = .error .readerReleased r := by
    change EStateM.map _ _ r = _
    rw [EStateM.map, takeScalar, if_pos hr]
  exact bind_of_error hint

/-- A reader that has just read a length is inside its bytes. -/
theorem length_leaves {typeName : String} (h : length typeName r₀ = .ok count r) :
    r.released = false ∧ r.position ≤ r.size := by
  have hmoved := (length_advances typeName).ok h
  constructor
  · rw [hmoved.released]
    by_contra hr
    rw [length_of_released typeName (by simpa using hr)] at h
    cases h
  · exact hmoved.within (by decide)

/-- What moves over as many bytes as a count stands for does not succeed where the count is refused. -/
theorem checkCount_idle {x : Reading α} (hx : x.Advances (count * width)) (hw : 0 < width) (typeName : String)
    (hr : r.released = false) (hp : r.position ≤ r.size) (a : α) (r' : Reader) :
    (do checkCount count width typeName; x) r = .ok a r' ↔ x r = .ok a r' := by
  have hcheck := checkCount_of_pos count hw typeName hr
  by_cases hl : r.remaining < count * width
  · rw [if_pos hl] at hcheck
    rw [bind_of_error hcheck]
    constructor
    · exact nofun
    · intro h
      have hle := (hx.ok h).le_remaining hp
      push_cast at hle
      omega
  · rw [if_neg hl] at hcheck
    rw [bind_of_ok hcheck]

/-! ### Counted readings -/

/-- A count, and as many elements without a look at it. -/
def counted (typeName : String) (loop : Nat → Reading α) : Reading α := do
  loop (← length typeName)

/-- Where a count is refused, reading as many elements as it says fails as well. -/
def RefusesFailures (typeName : String) (width : Nat) (loop : Nat → Reading α) : Prop :=
  ∀ r₀ r r₁ count e, length typeName r₀ = .ok count r → checkCount count width typeName r = .error e r₁ →
    ∃ e' r', loop count r = .error e' r'

section

variable {f g : Nat → Reading α} (hf : ∀ count, (f count).Advances (count * width))
  (hfg : ∀ count, (f count).SameSuccesses (g count)) (hw : 0 < width) (typeName : String)
include hf hfg hw

theorem counted_sameSuccesses :
    (do
      let count ← length typeName
      checkCount count width typeName
      f count).SameSuccesses (counted typeName g) := by
  intro r₀ a r'
  unfold counted
  rw [bind_eq_ok, bind_eq_ok]
  apply exists_congr
  intro count
  apply exists_congr
  intro r
  apply and_congr_right
  intro hlength
  obtain ⟨hr, hp⟩ := length_leaves hlength
  exact (checkCount_idle (hf count) hw typeName hr hp a r').trans (hfg count r a r')

theorem counted_refusesFailures : RefusesFailures typeName width g := by
  intro r₀ r r₁ count e hlength hcheck
  obtain ⟨hr, hp⟩ := length_leaves hlength
  cases hg : g count r with
  | error e' r' => exact ⟨e', r', rfl⟩
  | ok a r' =>
    have hok := (hfg count r a r').mpr hg
    rw [← checkCount_idle (hf count) hw typeName hr hp, bind_of_error hcheck] at hok
    cases hok

end

theorem elements_sameSuccesses {x y : Reading Value} (h : x.SameSuccesses y) (count : Nat) (sofar : List Value) :
    (elements x count sofar).SameSuccesses (elements y count sofar) := by
  induction count generalizing sofar with
  | zero => exact .refl _
  | succ n ih => exact (h.orDrop _).bind fun v => ih (v :: sofar)

theorem entries_sameSuccesses {k k' v v' : Reading Value} (hk : k.SameSuccesses k') (hv : v.SameSuccesses v')
    (count : Nat) (sofar : List (Value × Value)) :
    (entries k v count sofar).SameSuccesses (entries k' v' count sofar) := by
  induction count generalizing sofar with
  | zero => exact .refl _
  | succ n ih =>
    apply (hk.orDrop _).bind
    intro key
    apply (hv.orDrop _).bind
    intro value
    exact (SameSuccesses.refl _).bind ih

/-- So many elements, as a list. -/
def listed (element : Reading Value) (count : Nat) : Reading Value := do
  return .list (← elements element count [])

/-- So many entries, as a dictionary. -/
def mapped (key value : Reading Value) (count : Nat) : Reading Value := do
  return .dict (← entries key value count [])

end Read

namespace Shape

open Read

/-- The early look at a count is a shortcut. A shape that is read takes at least its least width. So a sequence or map
whose elements take bytes is read as it would be without the look, by elements that are read as well or that are
themselves read without it; and where a count is refused, reading on would have failed. -/
theorem count_check_idle (impls : Implementations) :
    (∀ (s : Shape) (r r' : Reader) (v : Value), s.read impls r = .ok v r' → r.position + s.minWidth ≤ r'.position) ∧
    (∀ (inner : Shape) (x : Reading Value), 0 < inner.minWidth → (inner.read impls).SameSuccesses x →
      ((sequence inner).read impls).SameSuccesses (counted (sequence inner).typeName (listed x)) ∧
        RefusesFailures (sequence inner).typeName inner.minWidth (listed x)) ∧
    ∀ (key value : Shape) (x y : Reading Value), 0 < key.minWidth + value.minWidth →
      (key.read impls).SameSuccesses x → (value.read impls).SameSuccesses y →
      ((map key value).read impls).SameSuccesses (counted (map key value).typeName (mapped x y)) ∧
        RefusesFailures (map key value).typeName (key.minWidth + value.minWidth) (mapped x y) := by
  refine ⟨fun s r r' v h => ((s.read_advances impls).ok h).moved, ?_, ?_⟩
  · intro inner x hw hx
    have hf (count : Nat) : (listed (inner.read impls) count).Advances (count * inner.minWidth) :=
      (elements_advances (inner.read_advances impls) count []).finish fun items => .pure _
    have hfg (count : Nat) : (listed (inner.read impls) count).SameSuccesses (listed x count) :=
      (elements_sameSuccesses hx count []).bind fun items => .refl _
    exact ⟨counted_sameSuccesses hf hfg hw _, counted_refusesFailures hf hfg hw _⟩
  · intro key value x y hw hx hy
    have hf (count : Nat) :
        (mapped (key.read impls) (value.read impls) count).Advances (count * (key.minWidth + value.minWidth)) :=
      (entries_advances (key.read_advances impls) (value.read_advances impls) count []).finish fun pairs => .pure _
    have hfg (count : Nat) : (mapped (key.read impls) (value.read impls) count).SameSuccesses (mapped x y count) :=
      (entries_sameSuccesses hx hy count []).bind fun pairs => .refl _
    exact ⟨counted_sameSuccesses hf hfg hw _, counted_refusesFailures hf hfg hw _⟩

/-- Three lists are declared where there are bytes for one, so the declaration is refused at once. Read on, without any
look at a count, the list that there is can be read, and the next one not. -/
theorem count_check_idle_lists :
    0 < (sequence boolean).minWidth ∧
      (sequence boolean).read .none (.ofBytes [0, 0, 0, 1, 1]) =
        .ok (.list [.bool true]) (.between [0, 0, 0, 1, 1] [] []) ∧
      counted "Sequence[Boolean]" (listed (boolean.read .none)) (.ofBytes [0, 0, 0, 1, 1]) =
        .ok (.list [.bool true]) (.between [0, 0, 0, 1, 1] [] []) ∧
      length "Sequence[Sequence[Boolean]]" (.ofBytes [0, 0, 0, 3, 0, 0, 0, 1, 1]) =
        .ok 3 (.between [0, 0, 0, 3] [0, 0, 0, 1, 1] []) ∧
      checkCount 3 4 "Sequence[Sequence[Boolean]]" (.between [0, 0, 0, 3] [0, 0, 0, 1, 1] []) =
        .error (.underflow 12 5) (.between [0, 0, 0, 3] [0, 0, 0, 1, 1] []) ∧
      ∃ e r, listed (counted "Sequence[Boolean]" (listed (boolean.read .none))) 3
        (.between [0, 0, 0, 3] [0, 0, 0, 1, 1] []) = .error e r := by
  obtain ⟨-, hsequence, -⟩ := count_check_idle .none
  have hread : (sequence boolean).read .none (.ofBytes [0, 0, 0, 1, 1]) =
      .ok (.list [.bool true]) (.between [0, 0, 0, 1, 1] [] []) := by
    with_unfolding_all rfl
  have hlength : length "Sequence[Sequence[Boolean]]" (.ofBytes [0, 0, 0, 3, 0, 0, 0, 1, 1]) =
      .ok 3 (.between [0, 0, 0, 3] [0, 0, 0, 1, 1] []) := by
    with_unfolding_all rfl
  have hcheck : checkCount 3 4 "Sequence[Sequence[Boolean]]" (.between [0, 0, 0, 3] [0, 0, 0, 1, 1] []) =
      .error (.underflow 12 5) (.between [0, 0, 0, 3] [0, 0, 0, 1, 1] []) := by
    with_unfolding_all rfl
  obtain ⟨hsame, -⟩ := hsequence boolean _ (by decide) (.refl _)
  obtain ⟨-, hrefuses⟩ := hsequence (sequence boolean) _ (by decide) hsame
  exact ⟨by decide, hread, (hsame _ _ _).mp hread, hlength, hcheck, hrefuses _ _ _ _ _ hlength hcheck⟩

end Shape

end ForeignBridge
