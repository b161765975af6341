import ForeignBridge.Wire.Layout
import Mathlib.Tactic

/-!
Whole numbers come back from their bytes: from base 256, and in two's complement for signed layouts.
-/

namespace ForeignBridge

theorem bigEndian_length (width n : Nat) : (bigEndian width n).length = width := by
  induction width with
  | zero => rfl
  | succ width ih => simp [bigEndian, ih]

theorem ofBigEndian_append_digit (bs : Bytes) (sofar : Nat) :
    bs.foldl (fun n b => n * 256 + b.toNat) sofar = sofar * 256 ^ bs.length + ofBigEndian bs := by
  induction bs generalizing sofar with
  | nil => simp [ofBigEndian]
  | cons b bs ih =>
    simp only [ofBigEndian, List.foldl_cons, List.length_cons]
    rw [ih, ih (0 * 256 + b.toNat)]
    ring

theorem ofBigEndian_bigEndian (width n : Nat) : ofBigEndian (bigEndian width n) = n % 256 ^ width := by
  induction width with
  | zero => simp [bigEndian, ofBigEndian, Nat.mod_one]
  | succ width ih =>
    have hd : (UInt8.ofNat (n / 256 ^ width)).toNat = n / 256 ^ width % 256 := by simp
    have he : n % 256 ^ (width + 1) = 256 ^ width * (n / 256 ^ width % 256) + n % 256 ^ width := by
      rw [pow_succ, Nat.mod_mul, Nat.add_comm]
    simp only [bigEndian, ofBigEndian, List.foldl_cons]
    rw [ofBigEndian_append_digit, ih, bigEndian_length, hd, he]
    ring

theorem ofBigEndian_cons (b : UInt8) (bs : Bytes) :
    ofBigEndian (b :: bs) = b.toNat * 256 ^ bs.length + ofBigEndian bs := by
  have h := ofBigEndian_append_digit bs b.toNat
  simpa [ofBigEndian] using h

theorem ofBigEndian_lt (bs : Bytes) : ofBigEndian bs < 256 ^ bs.length := by
  induction bs with
  | nil => decide
  | cons b bs ih =>
    have hb : b.toNat < 256 := b.toNat_lt
    have hm : b.toNat * 256 ^ bs.length ≤ 255 * 256 ^ bs.length := Nat.mul_le_mul_right _ (by omega)
    rw [ofBigEndian_cons, List.length_cons, pow_succ]
    omega

/-- Digits above the width do not show. -/
theorem bigEndian_mod (width n : Nat) : bigEndian width (n % 256 ^ width) = bigEndian width n := by
  induction width generalizing n with
  | zero => rfl
  | succ width ih =>
    have hd : n % 256 ^ (width + 1) / 256 ^ width = n / 256 ^ width % 256 := by
      rw [pow_succ, Nat.mod_mul_right_div_self]
    have hm : n % 256 ^ (width + 1) % 256 ^ width = n % 256 ^ width :=
      Nat.mod_mod_of_dvd n (pow_dvd_pow 256 (Nat.le_succ width))
    have hu : UInt8.ofNat (n / 256 ^ width % 256) = UInt8.ofNat (n / 256 ^ width) := by
      simp [← UInt8.toNat_inj]
    rw [bigEndian, bigEndian, hd, hu, ← ih, hm, ih]

/-- Bytes are the digits of the number that they stand for. -/
theorem bigEndian_ofBigEndian (bs : Bytes) : bigEndian bs.length (ofBigEndian bs) = bs := by
  induction bs with
  | nil => rfl
  | cons b bs ih =>
    have hlt := ofBigEndian_lt bs
    have hq : ofBigEndian (b :: bs) / 256 ^ bs.length = b.toNat := by
      rw [ofBigEndian_cons, Nat.add_comm, Nat.add_mul_div_right _ _ (by positivity), Nat.div_eq_of_lt hlt,
        Nat.zero_add]
    have hr : ofBigEndian (b :: bs) % 256 ^ bs.length = ofBigEndian bs := by
      rw [ofBigEndian_cons, Nat.add_comm, Nat.add_mul_mod_self_right, Nat.mod_eq_of_lt hlt]
    rw [List.length_cons, bigEndian, hq, ← bigEndian_mod, hr, ih, UInt8.ofNat_toNat]

theorem residueOf_cast (width : Nat) (i : Int) : (residueOf width i : Int) = i % 256 ^ width :=
  Int.toNat_of_nonneg (Int.emod_nonneg _ (by positivity))

theorem residueOf_lt (width : Nat) (i : Int) : residueOf width i < 256 ^ width := by
  zify
  rw [residueOf_cast]
  exact Int.emod_lt_of_pos i (by positivity)

/-- A number inside the signed range of a width comes back from its residue. -/
theorem signedOf_residueOf {width : Nat} {i : Int} (hw : 0 < width)
    (hl : -(2 ^ (8 * width - 1)) ≤ i) (hh : i ≤ 2 ^ (8 * width - 1) - 1) :
    signedOf width (residueOf width i) = i := by
  have hp : (256 : Int) ^ width = 2 * 2 ^ (8 * width - 1) := by
    rw [← pow_succ', show 8 * width - 1 + 1 = 8 * width by omega, pow_mul]
    norm_num
  have hc := residueOf_cast width i
  have hn : (((256 : Nat) ^ width : Nat) : Int) = 256 ^ width := by push_cast; rfl
  unfold signedOf
  rcases le_or_gt 0 i with h | h
  · rw [Int.emod_eq_of_lt h (by omega)] at hc
    rw [if_pos (by zify; omega), hc]
  · rw [← Int.add_emod_right, Int.emod_eq_of_lt (by omega) (by omega)] at hc
    rw [if_neg (by zify; omega), hc]
    omega

/-- Bytes are the residue of the signed number that they stand for. -/
theorem residueOf_signedOf {width n : Nat} (h : n < 256 ^ width) : residueOf width (signedOf width n) = n := by
  have hc := residueOf_cast width (signedOf width n)
  have hn : (((256 : Nat) ^ width : Nat) : Int) = 256 ^ width := by push_cast; rfl
  unfold signedOf at hc ⊢
  split at hc
  · rename_i hs
    rw [if_pos hs]
    rw [Int.emod_eq_of_lt (by omega) (by zify at h; exact h)] at hc
    exact_mod_cast hc
  · rename_i hs
    rw [if_neg hs]
    rw [← Int.add_emod_right, Int.sub_add_cancel, Int.emod_eq_of_lt (by omega) (by zify at h; exact h)] at hc
    exact_mod_cast hc

namespace Layout

theorem size_pos (l : Layout) : 0 < l.size := by cases l <;> decide

/-- What an integer layout packs, it unpacks. -/
theorem unpackInt_packInt {l : Layout} {i : Int} (hl : l.least ≤ i) (hh : i ≤ l.greatest) :
    l.unpackInt (bigEndian l.size (residueOf l.size i)) = i := by
  rw [unpackInt, ofBigEndian_bigEndian, Nat.mod_eq_of_lt (residueOf_lt _ _)]
  unfold least greatest at *
  cases hs : l.signed
  · simp only [hs, Bool.false_eq_true, ↓reduceIte] at *
    have hp : (256 : Int) ^ l.size = 2 ^ (8 * l.size) := by rw [pow_mul]; norm_num
    rw [residueOf_cast, Int.emod_eq_of_lt hl (by omega)]
  · simp only [hs, ↓reduceIte] at *
    exact signedOf_residueOf l.size_pos hl hh

theorem packInt_eq_ok {l : Layout} {i : Int} {bs : Bytes} (h : l.packInt i = .ok bs) :
    bs.length = l.size ∧ l.unpackInt bs = i := by
  unfold packInt at h
  split at h
  · rename_i hi
    cases h
    exact ⟨bigEndian_length _ _, unpackInt_packInt hi.1 hi.2⟩
  · cases h

theorem packInt_ok {l : Layout} {i : Int} (hl : l.least ≤ i) (hh : i ≤ l.greatest) :
    ∃ bs, l.packInt i = .ok bs :=
  ⟨_, if_pos ⟨hl, hh⟩⟩

theorem unpackInt_bounds {l : Layout} {bs : Bytes} (h : bs.length = l.size) :
    l.least ≤ l.unpackInt bs ∧ l.unpackInt bs ≤ l.greatest := by
  have hlt := ofBigEndian_lt bs
  rw [h] at hlt
  unfold least greatest unpackInt signedOf
  cases l <;> simp [signed, size] at * <;> omega

theorem packed_unpackInt {l : Layout} {bs : Bytes} (h : bs.length = l.size) :
    bigEndian l.size (residueOf l.size (l.unpackInt bs)) = bs := by
  have hlt := ofBigEndian_lt bs
  rw [h] at hlt
  have hr : residueOf l.size (l.unpackInt bs) = ofBigEndian bs := by
    unfold unpackInt
    cases l.signed
    · exact Int.ofNat.inj (by
        change (residueOf l.size (ofBigEndian bs : Int) : Int) = ofBigEndian bs
        rw [residueOf_cast, Int.emod_eq_of_lt (by omega) (by zify at hlt; exact hlt)])
    · exact residueOf_signedOf hlt
  rw [hr, ← h, bigEndian_ofBigEndian]

end Layout

end ForeignBridge
