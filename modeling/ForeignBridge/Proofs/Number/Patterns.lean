import ForeignBridge.Number.Binary
import Mathlib.Tactic

/-!
Bit patterns of finite numbers. A pattern is a sign, an exponent field and a fraction, which are found again
in it; and a ratio that a format holds is rounded to its own pattern.
-/

namespace ForeignBridge

namespace BinaryFormat

variable {f : BinaryFormat}

/-! ### The parts of a pattern -/

theorem signBit_eq (f : BinaryFormat) : f.signBit = 2 ^ f.exponentBits * 2 ^ f.fractionBits := by
  rw [signBit, Nat.add_comm, Nat.pow_add]

theorem digits_div {a b c : Nat} (h : c < b) : (a * b + c) / b = a := by
  rw [Nat.mul_comm, Nat.mul_add_div (Nat.zero_lt_of_lt h), Nat.div_eq_of_lt h, Nat.add_zero]

theorem digits_mod {a b c : Nat} (h : c < b) : (a * b + c) % b = c := by
  rw [Nat.mul_comm, Nat.mul_add_mod, Nat.mod_eq_of_lt h]

theorem unpack_withSign (negative : Bool) {field fraction : Nat} (hf : field < 2 ^ f.exponentBits)
    (hr : fraction < 2 ^ f.fractionBits) :
    f.unpack (f.withSign negative (field * 2 ^ f.fractionBits + fraction)) =
      if field = f.topField then if fraction = 0 then .infinite negative else .nan negative fraction
      else if field = 0 then .finite negative fraction f.leastExponent
      else .finite negative (2 ^ f.fractionBits + fraction) (f.leastExponent + (field - 1 : Nat)) := by
  -- the sign is a digit above the field, as the field is one above the fraction
  have hw : f.withSign negative (field * 2 ^ f.fractionBits + fraction) =
      (negative.toNat * 2 ^ f.exponentBits + field) * 2 ^ f.fractionBits + fraction := by
    cases negative
    · simp [withSign]
    · simp only [withSign, signBit_eq, Bool.toNat_true, if_true]
      ring
  have hq := digits_div (a := negative.toNat * 2 ^ f.exponentBits + field) hr
  have hm := digits_mod (a := negative.toNat * 2 ^ f.exponentBits + field) hr
  have hs := digits_div (a := negative.toNat) hf
  have hd := digits_mod (a := negative.toNat) hf
  have hn : (((negative.toNat * 2 ^ f.exponentBits + field) * 2 ^ f.fractionBits + fraction) / f.signBit % 2 == 1) =
      negative := by
    rw [signBit_eq, Nat.mul_comm (2 ^ f.exponentBits), ← Nat.div_div_eq_div_mul, hq, hs]
    cases negative <;> rfl
  rw [hw]
  simp only [unpack, hn, hq, hm, hd]

theorem topField_lt (f : BinaryFormat) : f.topField < 2 ^ f.exponentBits :=
  Nat.sub_lt (by positivity) Nat.one_pos

theorem withSign_lt {bits : Nat} (h : bits < f.signBit) (negative : Bool) :
    f.withSign negative bits < 2 * f.signBit := by
  cases negative <;> simp only [withSign, if_true, Bool.false_eq_true, if_false] <;> omega

theorem infinity_add_lt {payload : Nat} (hp : payload < 2 ^ f.fractionBits) : f.infinity + payload < f.signBit := by
  have hm : (f.topField + 1) * 2 ^ f.fractionBits ≤ 2 ^ f.exponentBits * 2 ^ f.fractionBits :=
    Nat.mul_le_mul_right _ f.topField_lt
  rw [Nat.succ_mul] at hm
  rw [signBit_eq, infinity]
  omega

theorem unpack_infinity (f : BinaryFormat) (negative : Bool) :
    f.unpack (f.withSign negative f.infinity) = .infinite negative := by
  have h := unpack_withSign negative f.topField_lt (Nat.two_pow_pos f.fractionBits)
  rwa [if_pos rfl, if_pos rfl, Nat.add_zero] at h

theorem unpack_nan {payload : Nat} (hz : 0 < payload) (hp : payload < 2 ^ f.fractionBits) (negative : Bool) :
    f.unpack (f.withSign negative (f.infinity + payload)) = .nan negative payload := by
  have h := unpack_withSign negative f.topField_lt hp
  rwa [if_pos rfl, if_neg hz.ne'] at h

/-- Every number below the width of a format is a pattern with its parts. -/
theorem exists_withSign {bits : Nat} (h : bits < 2 * f.signBit) : ∃ negative field fraction,
    field < 2 ^ f.exponentBits ∧ fraction < 2 ^ f.fractionBits ∧
      bits = f.withSign negative (field * 2 ^ f.fractionBits + fraction) := by
  have hs : f.signBit = 2 ^ f.exponentBits * 2 ^ f.fractionBits := f.signBit_eq
  have hpos : 0 < f.signBit := by
    rw [hs]
    positivity
  have hrest : bits % f.signBit < f.signBit := Nat.mod_lt _ hpos
  refine ⟨decide (f.signBit ≤ bits), bits % f.signBit / 2 ^ f.fractionBits, bits % f.signBit % 2 ^ f.fractionBits,
    Nat.div_lt_of_lt_mul (by rw [Nat.mul_comm, ← hs]; exact hrest), Nat.mod_lt _ (by positivity), ?_⟩
  have hparts : bits % f.signBit / 2 ^ f.fractionBits * 2 ^ f.fractionBits + bits % f.signBit % 2 ^ f.fractionBits =
      bits % f.signBit := by
    rw [Nat.mul_comm]
    exact Nat.div_add_mod _ _
  rw [hparts, withSign]
  by_cases hb : f.signBit ≤ bits
  · rw [decide_eq_true hb, if_pos rfl, Nat.mod_eq_sub_mod hb, Nat.mod_eq_of_lt (by omega)]
    omega
  · rw [decide_eq_false hb, if_neg Bool.false_ne_true, Nat.mod_eq_of_lt (by omega)]

/-! ### Numbers that a format holds -/

/-- The pattern of a mantissa and the exponent of its last place, without a sign. -/
def pattern (f : BinaryFormat) (mantissa : Nat) (exponent : Int) : Nat :=
  if mantissa < 2 ^ f.fractionBits then mantissa
  else (exponent - f.leastExponent).toNat * 2 ^ f.fractionBits + mantissa

/-- A mantissa that fits, as far to the left as it goes. -/
structure Canonical (f : BinaryFormat) (mantissa : Nat) (exponent : Int) : Prop where
  fits : mantissa < 2 ^ f.precision
  least : f.leastExponent ≤ exponent
  leading : exponent = f.leastExponent ∨ 2 ^ f.fractionBits ≤ mantissa
  finite : f.pattern mantissa exponent < f.infinity

theorem unpack_pattern (hp : 0 < f.precision) {mantissa : Nat} {exponent : Int} (h : f.Canonical mantissa exponent)
    (negative : Bool) :
    f.unpack (f.withSign negative (f.pattern mantissa exponent)) = .finite negative mantissa exponent := by
  have htop : 0 < f.topField := by
    have hfin := h.finite
    by_contra hz
    rw [infinity, Nat.eq_zero_of_not_pos hz, Nat.zero_mul] at hfin
    exact Nat.not_lt_zero _ hfin
  have hwidth := f.topField_lt
  have hpow : 2 ^ f.precision = 2 * 2 ^ f.fractionBits := by
    rw [fractionBits, ← Nat.pow_succ', Nat.succ_eq_add_one, Nat.sub_add_cancel hp]
  have hfits := h.fits
  have hfinite := h.finite
  by_cases hm : mantissa < 2 ^ f.fractionBits
  · have hl : exponent = f.leastExponent := h.leading.resolve_right (Nat.not_le.mpr hm)
    have hu := unpack_withSign negative (Nat.two_pow_pos f.exponentBits) hm
    rw [Nat.zero_mul, Nat.zero_add, if_neg htop.ne, if_pos rfl] at hu
    rw [pattern, if_pos hm, hu, hl]
  · obtain ⟨k, hk⟩ := Int.eq_ofNat_of_zero_le (Int.sub_nonneg_of_le h.least)
    obtain ⟨fraction, rfl⟩ := Nat.exists_eq_add_of_le (Nat.not_lt.mp hm)
    have hr : fraction < 2 ^ f.fractionBits := by omega
    have hpat : f.pattern (2 ^ f.fractionBits + fraction) exponent = (k + 1) * 2 ^ f.fractionBits + fraction := by
      rw [pattern, if_neg hm, hk, Int.toNat_natCast]
      ring
    have hfield : k + 1 < f.topField := by
      rw [hpat, infinity] at hfinite
      exact Nat.lt_of_mul_lt_mul_right (Nat.lt_of_le_of_lt (Nat.le_add_right _ _) hfinite)
    rw [hpat, unpack_withSign negative (by omega) hr, if_neg hfield.ne, if_neg (Nat.succ_ne_zero k)]
    have he : f.leastExponent + ((k + 1 - 1 : Nat) : Int) = exponent := by
      rw [Nat.add_sub_cancel]
      omega
    rw [he]

/-- The parts of a finite number are those of a canonical form. -/
theorem exists_canonical (hp : 0 < f.precision) {field fraction : Nat} (hf : field < f.topField)
    (hr : fraction < 2 ^ f.fractionBits) :
    ∃ m e, f.Canonical m e ∧ f.pattern m e = field * 2 ^ f.fractionBits + fraction := by
  have hpow : 2 ^ f.precision = 2 * 2 ^ f.fractionBits := by
    rw [fractionBits, ← Nat.pow_succ', Nat.succ_eq_add_one, Nat.sub_add_cancel hp]
  have hfin : field * 2 ^ f.fractionBits + fraction < f.infinity := by
    have hm : (field + 1) * 2 ^ f.fractionBits ≤ f.topField * 2 ^ f.fractionBits := Nat.mul_le_mul_right _ hf
    rw [infinity]
    rw [Nat.succ_mul] at hm
    omega
  cases field with
  | zero =>
    have hpat : f.pattern fraction f.leastExponent = 0 * 2 ^ f.fractionBits + fraction := by
      rw [pattern, if_pos hr, Nat.zero_mul, Nat.zero_add]
    exact ⟨fraction, f.leastExponent, ⟨by omega, le_rfl, .inl rfl, by rwa [hpat]⟩, hpat⟩
  | succ k =>
    have hpat : f.pattern (2 ^ f.fractionBits + fraction) (f.leastExponent + k) =
        (k + 1) * 2 ^ f.fractionBits + fraction := by
      rw [pattern, if_neg (by omega), add_sub_cancel_left, Int.toNat_natCast]
      ring
    exact ⟨2 ^ f.fractionBits + fraction, f.leastExponent + k, ⟨by omega, by omega, .inr (by omega), by rwa [hpat]⟩,
      hpat⟩

/-- A pattern is that of an infinite number, of no number, or of the canonical form of a finite one. -/
theorem pattern_cases (hp : 0 < f.precision) {bits : Nat} (h : bits < 2 * f.signBit) : ∃ negative,
    bits = f.withSign negative f.infinity ∨
    (∃ payload, 0 < payload ∧ payload < 2 ^ f.fractionBits ∧ bits = f.withSign negative (f.infinity + payload)) ∨
    ∃ m e, f.Canonical m e ∧ bits = f.withSign negative (f.pattern m e) := by
  obtain ⟨negative, field, fraction, hf, hr, rfl⟩ := exists_withSign h
  refine ⟨negative, ?_⟩
  by_cases ht : field = f.topField
  · subst ht
    obtain rfl | hz := Nat.eq_zero_or_pos fraction
    · exact .inl rfl
    · exact .inr (.inl ⟨fraction, hz, hr, rfl⟩)
  · have htop : f.topField = 2 ^ f.exponentBits - 1 := rfl
    have hlt : field < f.topField := by omega
    obtain ⟨m, e, hc, hpat⟩ := exists_canonical hp hlt hr
    exact .inr (.inr ⟨m, e, hc, by rw [hpat]⟩)

theorem roundHalfEven_mul (n : Nat) {d : Nat} (hd : 0 < d) : roundHalfEven (n * d) d = n := by
  simp [roundHalfEven, Nat.mul_div_cancel n hd, hd]

/-- Moving the point changes a ratio by a power of two. -/
theorem scaled_ratio (n d : Nat) (e : Int) :
    ((n * 2 ^ (-e).toNat : Nat) : ℚ) / (d * 2 ^ e.toNat : Nat) = n / d / (2 : ℚ) ^ e := by
  obtain ⟨k, rfl | rfl⟩ := e.eq_nat_or_neg
  · simp [div_div]
  · simp [mul_div_right_comm]

/-- The binade of a ratio, up to one place. -/
theorem ratio_log2_bounds {n d : Nat} (hn : n ≠ 0) (hd : d ≠ 0) :
    (2 : ℚ) ^ ((n.log2 : Int) - d.log2 - 1) ≤ (n : ℚ) / d ∧ (n : ℚ) / d < (2 : ℚ) ^ ((n.log2 : Int) - d.log2 + 1) := by
  have hnl : (2 : ℚ) ^ (n.log2 : Int) ≤ n := by exact_mod_cast Nat.log2_self_le hn
  have hnu : (n : ℚ) < (2 : ℚ) ^ ((n.log2 : Int) + 1) := by exact_mod_cast Nat.lt_log2_self
  have hdl : (2 : ℚ) ^ (d.log2 : Int) ≤ d := by exact_mod_cast Nat.log2_self_le hd
  have hdu : (d : ℚ) < (2 : ℚ) ^ ((d.log2 : Int) + 1) := by exact_mod_cast Nat.lt_log2_self
  have hdp : (0 : ℚ) < d := by exact_mod_cast Nat.pos_of_ne_zero hd
  constructor
  · rw [le_div_iff₀ hdp]
    calc (2 : ℚ) ^ ((n.log2 : Int) - d.log2 - 1) * d
        ≤ (2 : ℚ) ^ ((n.log2 : Int) - d.log2 - 1) * (2 : ℚ) ^ ((d.log2 : Int) + 1) := by gcongr
      _ = (2 : ℚ) ^ (n.log2 : Int) := by
        rw [← zpow_add₀ (by norm_num)]
        congr 1
        ring
      _ ≤ n := hnl
  · rw [div_lt_iff₀ hdp]
    calc (n : ℚ) < (2 : ℚ) ^ ((n.log2 : Int) + 1) := hnu
      _ = (2 : ℚ) ^ ((n.log2 : Int) - d.log2 + 1) * (2 : ℚ) ^ (d.log2 : Int) := by
        rw [← zpow_add₀ (by norm_num)]
        congr 1
        ring
      _ ≤ (2 : ℚ) ^ ((n.log2 : Int) - d.log2 + 1) * d := by gcongr

/-- The exponent that rounding tries first, which is that of the last place of a ratio unless it is too small. -/
theorem exponent_bounds {n d : Nat} (hn : n ≠ 0) (hd : 0 < d) (p : Nat) :
    let guess : Int := n.log2 - d.log2 - p
    let e := if n * 2 ^ (-guess).toNat / (d * 2 ^ guess.toNat) ≥ 2 ^ p then guess + 1 else guess
    (2 : ℚ) ^ (e + p - 1) ≤ (n : ℚ) / d ∧ (n : ℚ) / d < (2 : ℚ) ^ (e + p) := by
  intro guess
  obtain ⟨hl, hu⟩ := ratio_log2_bounds hn hd.ne'
  have hb : 0 < d * 2 ^ guess.toNat := by positivity
  have hwide : n * 2 ^ (-guess).toNat / (d * 2 ^ guess.toNat) ≥ 2 ^ p ↔ (2 : ℚ) ^ (guess + p) ≤ (n : ℚ) / d := by
    have hs := scaled_ratio n d guess
    have hbq : (0 : ℚ) < (d * 2 ^ guess.toNat : Nat) := by exact_mod_cast hb
    rw [ge_iff_le, Nat.le_div_iff_mul_le hb, zpow_add₀ (by norm_num), zpow_natCast,
      mul_comm ((2 : ℚ) ^ guess), ← le_div_iff₀ (by positivity), ← hs, le_div_iff₀ hbq]
    exact_mod_cast Iff.rfl
  have hg : guess + p = (n.log2 : Int) - d.log2 := by
    simp only [guess]
    ring
  dsimp only
  split
  · rename_i hw
    have hw := hwide.mp hw
    refine ⟨by rwa [show guess + 1 + p - 1 = guess + p by ring], ?_⟩
    rwa [show guess + 1 + (p : Int) = n.log2 - d.log2 + 1 by omega]
  · rename_i hw
    have hw := not_le.mp (mt hwide.mpr hw)
    refine ⟨?_, hw⟩
    rwa [show guess + (p : Int) - 1 = n.log2 - d.log2 - 1 by omega]

/-- A number that a format holds leaves no choice of the exponent. -/
theorem exponent_of_canonical (hp : 0 < f.precision) {m : Nat} {e e₀ : Int} (h : f.Canonical m e)
    (hl : (2 : ℚ) ^ (e₀ + f.precision - 1) ≤ m * (2 : ℚ) ^ e) (hu : m * (2 : ℚ) ^ e < (2 : ℚ) ^ (e₀ + f.precision)) :
    max e₀ f.leastExponent = e := by
  have hone : (1 : ℚ) < 2 := by norm_num
  have hpos : (0 : ℚ) < (2 : ℚ) ^ e := by positivity
  have hbits : ((f.fractionBits : Nat) : Int) = f.precision - 1 := by
    rw [fractionBits]
    omega
  -- the mantissa is below the next power of two, so the exponent is not too small
  have hle : e₀ ≤ e := by
    have hm : (m : ℚ) < (2 : ℚ) ^ (f.precision : Int) := by exact_mod_cast h.fits
    have hlt : (2 : ℚ) ^ (e₀ + f.precision - 1) < (2 : ℚ) ^ ((f.precision : Int) + e) := by
      rw [zpow_add₀ (by norm_num) (f.precision : Int)]
      exact lt_of_le_of_lt hl (by gcongr)
    have := (zpow_lt_zpow_iff_right₀ hone).mp hlt
    omega
  rcases h.leading with rfl | hm
  · exact max_eq_right hle
  · have hm : (2 : ℚ) ^ (f.fractionBits : Int) ≤ m := by exact_mod_cast hm
    have hlt : (2 : ℚ) ^ ((f.fractionBits : Int) + e) < (2 : ℚ) ^ (e₀ + f.precision) := by
      rw [zpow_add₀ (by norm_num) (f.fractionBits : Int)]
      exact lt_of_le_of_lt (by gcongr) hu
    have := (zpow_lt_zpow_iff_right₀ hone).mp hlt
    have heq : e₀ = e := by omega
    rw [heq]
    exact max_eq_left h.least

/-- A ratio that a format holds is rounded to its pattern. -/
theorem roundRatio_of_canonical (hp : 0 < f.precision) {m n d : Nat} {e : Int} (h : f.Canonical m e) (hd : 0 < d)
    (hv : (n : ℚ) / d = m * (2 : ℚ) ^ e) : f.roundRatio n d = some (f.pattern m e) := by
  have hdq : (d : ℚ) ≠ 0 := by exact_mod_cast hd.ne'
  have hpow : (2 : ℚ) ^ e ≠ 0 := by positivity
  by_cases hn : n = 0
  · have hm : m = 0 := by
      rw [hn, Nat.cast_zero, zero_div] at hv
      exact_mod_cast (mul_eq_zero.mp hv.symm).resolve_right hpow
    have hz : (0 : Nat) < 2 ^ f.fractionBits := by positivity
    rw [roundRatio, if_pos hn, hm, pattern, if_pos hz]
  · have he := exponent_of_canonical hp h (by rw [← hv]; exact (exponent_bounds hn hd f.precision).1)
      (by rw [← hv]; exact (exponent_bounds hn hd f.precision).2)
    have hb : 0 < d * 2 ^ e.toNat := by positivity
    have hexact : n * 2 ^ (-e).toNat = m * (d * 2 ^ e.toNat) := by
      have hs := scaled_ratio n d e
      have hbq : ((d * 2 ^ e.toNat : Nat) : ℚ) ≠ 0 := by exact_mod_cast hb.ne'
      rw [hv, mul_div_cancel_right₀ _ hpow, div_eq_iff hbq] at hs
      exact_mod_cast hs
    have hround : roundHalfEven (n * 2 ^ (-e).toNat) (d * 2 ^ e.toNat) = m := by
      rw [hexact, roundHalfEven_mul m hb]
    have hfin : f.pattern m e < f.topField * 2 ^ f.fractionBits := h.finite
    simp only [roundRatio, if_neg hn, he, hround]
    exact if_pos hfin

/-- A number is rounded to the pattern of its canonical form. -/
theorem roundFinite_of_canonical (hp : 0 < f.precision) {m n : Nat} {e k : Int} (h : f.Canonical m e)
    (hv : (n : ℚ) * (2 : ℚ) ^ k = m * (2 : ℚ) ^ e) (negative : Bool) :
    f.roundFinite negative n k = some (f.withSign negative (f.pattern m e)) := by
  have hr : ((n * 2 ^ k.toNat : Nat) : ℚ) / (2 ^ (-k).toNat : Nat) = m * (2 : ℚ) ^ e := by
    rw [← hv]
    obtain ⟨i, rfl | rfl⟩ := k.eq_nat_or_neg
    · simp
    · simp [div_eq_mul_inv]
  rw [roundFinite, roundRatio_of_canonical hp h (by positivity) hr, Option.map_some]

end BinaryFormat

end ForeignBridge
