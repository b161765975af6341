import ForeignBridge.Proofs.Number.Patterns

/-!
Binary32 numbers among the doubles. A finite one is exactly a double, so that it is the one nearest to that
double; what comes back from a pattern that is no number is the same pattern made quiet.
-/

namespace ForeignBridge

open BinaryFormat

namespace Double

theorem unpack_ofNatBits {n : Nat} (h : n < 2 ^ 64) : (ofNatBits n).unpack = BinaryFormat.double.unpack n := by
  rw [unpack, ofNatBits, Nat.toUInt64_eq, UInt64.toNat_ofNat_of_lt' h]

/-- What a double holds exactly it has the pattern of. -/
theorem unpack_pattern {m : Nat} {e : Int} (h : BinaryFormat.double.Canonical m e) (negative : Bool) :
    (ofNatBits (BinaryFormat.double.withSign negative (BinaryFormat.double.pattern m e))).unpack =
      .finite negative m e := by
  have hlt : BinaryFormat.double.pattern m e < BinaryFormat.double.signBit :=
    Nat.lt_trans h.finite (infinity_add_lt (Nat.two_pow_pos _))
  rw [unpack_ofNatBits (withSign_lt hlt negative), BinaryFormat.unpack_pattern (by decide) h]

theorem unpack_nan {payload : Nat} (hz : 0 < payload) (hp : payload < 2 ^ 52) (negative : Bool) :
    (ofNatBits (BinaryFormat.double.withSign negative (BinaryFormat.double.infinity + payload))).unpack =
      .nan negative payload := by
  rw [unpack_ofNatBits (withSign_lt (infinity_add_lt hp) negative), BinaryFormat.unpack_nan (f := BinaryFormat.double) hz hp]

/-- A binary32 number is a double: its mantissa is moved to the left until it leads there too. -/
theorem canonical_of_single {m : Nat} {e : Int} (h : single.Canonical m e) :
    ∃ M E, BinaryFormat.double.Canonical M E ∧ (m : ℚ) * (2 : ℚ) ^ e = M * (2 : ℚ) ^ E := by
  have hfits : m < 2 ^ 24 := h.fits
  have hleast : -149 ≤ e := h.least
  have hleading : e = -149 ∨ 2 ^ 23 ≤ m := h.leading
  have hfinite : (if m < 2 ^ 23 then m else (e + 149).toNat * 2 ^ 23 + m) < 255 * 2 ^ 23 := h.finite
  obtain rfl | hm := Nat.eq_zero_or_pos m
  · exact ⟨0, -1074, ⟨by decide, by decide, .inl rfl, by decide⟩, by simp⟩
  · have hlog : m.log2 < 24 := (Nat.log2_lt hm.ne').mpr hfits
    have hl : 2 ^ m.log2 ≤ m := Nat.log2_self_le hm.ne'
    have hu : m < 2 ^ (m.log2 + 1) := Nat.lt_log2_self
    obtain ⟨k, hk⟩ : ∃ k, m.log2 + k = 52 := ⟨52 - m.log2, by omega⟩
    have hML : 2 ^ 52 ≤ m * 2 ^ k := by
      rw [← hk, Nat.pow_add]
      exact Nat.mul_le_mul_right _ hl
    have hMU : m * 2 ^ k < 2 ^ 53 := by
      rw [show 53 = m.log2 + 1 + k by omega, Nat.pow_add]
      exact Nat.mul_lt_mul_of_pos_right hu (by positivity)
    refine ⟨m * 2 ^ k, e - k, ⟨hMU, ?_, .inr hML, ?_⟩, ?_⟩
    · change -1074 ≤ e - k
      omega
    · change (if m * 2 ^ k < 2 ^ 52 then m * 2 ^ k else (e - k + 1074).toNat * 2 ^ 52 + m * 2 ^ k) < 2047 * 2 ^ 52
      have hhigh : (e - k + 1074).toNat ≤ 1178 := by
        split at hfinite <;> omega
      have hmul : (e - k + 1074).toNat * 2 ^ 52 ≤ 1178 * 2 ^ 52 := Nat.mul_le_mul_right _ hhigh
      rw [if_neg (Nat.not_lt.mpr hML)]
      omega
    · rw [zpow_sub₀ (by norm_num), zpow_natCast]
      push_cast
      field_simp

/-- The double of a finite binary32 number has that number for its parts. -/
theorem ofSingle_of_canonical {m : Nat} {e : Int} (h : single.Canonical m e) (negative : Bool) {bits : UInt32}
    (hb : bits.toNat = single.withSign negative (single.pattern m e)) :
    ∃ M E, (ofSingle bits).unpack = .finite negative M E ∧ (m : ℚ) * (2 : ℚ) ^ e = M * (2 : ℚ) ^ E := by
  obtain ⟨M, E, hc, hv⟩ := canonical_of_single h
  refine ⟨M, E, ?_, hv⟩
  rw [ofSingle, hb, BinaryFormat.unpack_pattern (by decide) h]
  dsimp only
  rw [roundFinite_of_canonical (by decide) hc hv, Option.getD_some, unpack_pattern hc]

/-- What comes back from a pattern that is no number has the top digit of its payload set, which it keeps. -/
theorem toSingle?_ofSingle_nan {payload : Nat} (hz : 0 < payload) (hp : payload < 2 ^ 23) (negative : Bool)
    {bits : UInt32} (hb : bits.toNat = single.withSign negative (single.infinity + payload)) :
    ∃ b, (ofSingle bits).toSingle? = some b ∧ ofSingle b = ofSingle bits := by
  have hidem : (payload ||| 2 ^ 22) ||| 2 ^ 22 = payload ||| 2 ^ 22 := by
    rw [Nat.or_assoc, Nat.or_self]
  have hq : payload ||| 2 ^ 22 < 2 ^ 23 := Nat.or_lt_two_pow hp (by decide)
  have hle : 2 ^ 22 ≤ payload ||| 2 ^ 22 := Nat.right_le_or
  have hof : ofSingle bits = ofNatBits (BinaryFormat.double.withSign negative
      (BinaryFormat.double.infinity + (payload ||| 2 ^ 22) * 2 ^ 29)) := by
    rw [ofSingle, hb, BinaryFormat.unpack_nan (f := single) hz hp]
  generalize payload ||| 2 ^ 22 = quiet at *
  have hquiet : single.withSign negative (single.infinity + quiet) < 2 ^ 32 := withSign_lt (infinity_add_lt hq) negative
  refine ⟨(single.withSign negative (single.infinity + quiet)).toUInt32, ?_, ?_⟩
  · rw [hof, toSingle?, unpack_nan (by omega) (by omega)]
    dsimp only
    rw [Nat.mul_div_cancel _ (by decide), hidem]
  · rw [ofSingle, Nat.toUInt32_eq, UInt32.toNat_ofNat_of_lt' hquiet,
      BinaryFormat.unpack_nan (f := single) (by omega) hq]
    dsimp only
    rw [hidem, hof]

/-- A binary32 number that was made a double is one of those that have this double. -/
theorem toSingle?_ofSingle (bits : UInt32) :
    ∃ b, (ofSingle bits).toSingle? = some b ∧ ofSingle b = ofSingle bits := by
  have hwidth : bits.toNat < 2 * single.signBit := bits.toNat_lt
  obtain ⟨negative, hb | ⟨payload, hz, hp, hb⟩ | ⟨m, e, h, hb⟩⟩ := pattern_cases (f := single) (by decide) hwidth
  · have hd : (infinity negative).unpack = .infinite negative := by
      rw [infinity, unpack_ofNatBits (by cases negative <;> decide), unpack_infinity]
    refine ⟨bits, ?_, rfl⟩
    rw [ofSingle, hb, unpack_infinity]
    dsimp only
    rw [toSingle?, hd]
    dsimp only
    rw [← hb, Nat.toUInt32_eq, UInt32.ofNat_toNat]
  · exact toSingle?_ofSingle_nan hz hp negative hb
  · obtain ⟨M, E, hu, hv⟩ := ofSingle_of_canonical h negative hb
    refine ⟨bits, ?_, rfl⟩
    rw [toSingle?, hu]
    dsimp only
    rw [roundFinite_of_canonical (by decide) h hv.symm, Option.map_some, ← hb, Nat.toUInt32_eq, UInt32.ofNat_toNat]

end Double

end ForeignBridge
