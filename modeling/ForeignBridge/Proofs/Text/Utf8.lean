import ForeignBridge.Text.Utf8
import Mathlib.Tactic.IntervalCases

/-!
Decoding undoes encoding. A character above ASCII is a first byte that begins it and bytes that complete
it; the machine that refuses and the one that replaces take the same path through both.
-/

namespace ForeignBridge.Utf8

/-- The code that a character begun comes to when the bytes owed follow, and nothing else. -/
def Begun.completed? (p : Begun) : List UInt8 → Option Nat
  | [] => none
  | b :: rest =>
    if p.accepts b then
      if p.owed = 1 then if rest = [] then some (p.push b).code else none
      else (p.push b).completed? rest
    else none

theorem begin?_two {n : Nat} (h : 0xc2 ≤ n) (h' : n < 0xe0) :
    begin? (.ofNat n) = some ⟨.ofNat n, 1, 1, 0x80, 0xbf, n - 0xc0⟩ := by
  have hn : n % 256 = n := Nat.mod_eq_of_lt (by omega)
  have h₁ : ¬ n < 194 := by omega
  simp [begin?, UInt8.lt_iff_toNat_lt, hn, h₁, h']

theorem begin?_three {n : Nat} (h : 0xe0 ≤ n) (h' : n < 0xf0) :
    begin? (.ofNat n) = some ⟨.ofNat n, 1, 2, if n = 0xe0 then 0xa0 else 0x80,
      if n = 0xed then 0x9f else 0xbf, n - 0xe0⟩ := by
  have hn : n % 256 = n := Nat.mod_eq_of_lt (by omega)
  have h₁ : ¬ n < 194 := by omega
  have h₂ : ¬ n < 224 := by omega
  by_cases he : n = 0xe0
  · subst he; decide
  · by_cases hd : n = 0xed
    · subst hd; decide
    · simp [begin?, UInt8.lt_iff_toNat_lt, ← UInt8.toNat_inj, hn, h₁, h₂, h', he, hd]

theorem begin?_four {n : Nat} (h : 0xf0 ≤ n) (h' : n < 0xf5) :
    begin? (.ofNat n) = some ⟨.ofNat n, 1, 3, if n = 0xf0 then 0x90 else 0x80,
      if n = 0xf4 then 0x8f else 0xbf, n - 0xf0⟩ := by
  interval_cases n <;> decide

/-- A byte between the bounds continues a character begun. -/
theorem Begun.completed?_cons {p : Begun} {n : Nat} {rest : List UInt8} (hn : n < 256)
    (hl : p.low.toNat ≤ n) (hh : n ≤ p.high.toNat) (ho : p.owed ≠ 1) :
    p.completed? (.ofNat n :: rest) = (p.push (.ofNat n)).completed? rest := by
  have h : n % 256 = n := Nat.mod_eq_of_lt hn
  simp [completed?, accepts, UInt8.le_iff_toNat_le, h, hl, hh, ho]

theorem Begun.completed?_last {p : Begun} {n : Nat} (hn : n < 256)
    (hl : p.low.toNat ≤ n) (hh : n ≤ p.high.toNat) (ho : p.owed = 1) :
    p.completed? [.ofNat n] = some (p.push (.ofNat n)).code := by
  have h : n % 256 = n := Nat.mod_eq_of_lt hn
  simp [completed?, accepts, UInt8.le_iff_toNat_le, h, hl, hh, ho]

theorem push_ofNat (p : Begun) {n : Nat} (hn : n < 256) :
    p.push (.ofNat n) =
      ⟨p.first, p.taken + 1, p.owed - 1, 0x80, 0xbf, p.code * 64 + (n - 0x80)⟩ := by
  have h : n % 256 = n := Nat.mod_eq_of_lt hn
  simp [Begun.push, h]

theorem encodeChar_ascii {c : Char} (h : c.toNat < 0x80) :
    String.utf8EncodeChar c = [.ofNat c.toNat] :=
  if_pos (Nat.le_of_lt_succ h)

theorem toNat_valid (c : Char) :
    c.toNat < 0xd800 ∨ 0xdfff < c.toNat ∧ c.toNat < 0x110000 := c.valid

/-- The first byte of a character above ASCII begins it, and the others complete it. -/
theorem encodeChar_begins (c : Char) (h : 0x80 ≤ c.toNat) :
    ∃ n p tail, String.utf8EncodeChar c = .ofNat n :: tail ∧ 0x80 ≤ n ∧ n < 256 ∧
      begin? (.ofNat n) = some p ∧ p.completed? tail = some c.toNat := by
  have hv := toNat_valid c
  generalize hc : c.toNat = v at *
  have hval : c.val.toNat = v := hc
  by_cases h₂ : v ≤ 0x7ff
  · refine ⟨v / 64 % 32 + 0xc0, _, [.ofNat (v % 64 + 0x80)], ?_, by omega, by omega,
      begin?_two (by omega) (by omega), ?_⟩
    · simp only [String.utf8EncodeChar, hval]
      rw [if_neg (by omega), if_pos h₂]
    · rw [Begun.completed?_last (by omega) (by simp) (by simp; omega) rfl,
        push_ofNat _ (by omega)]
      simp only [Option.some.injEq]
      omega
  · by_cases h₃ : v ≤ 0xffff
    · refine ⟨v / 4096 % 16 + 0xe0, _, [.ofNat (v / 64 % 64 + 0x80), .ofNat (v % 64 + 0x80)],
        ?_, by omega, by omega, begin?_three (by omega) (by omega), ?_⟩
      · simp only [String.utf8EncodeChar, hval]
        rw [if_neg (by omega), if_neg h₂, if_pos h₃]
      · rw [Begun.completed?_cons (by omega) (by dsimp only; split <;> simp; omega)
          (by dsimp only; split <;> simp <;> omega) (by simp), push_ofNat _ (by omega),
          Begun.completed?_last (by omega) (by simp) (by simp; omega) rfl,
          push_ofNat _ (by omega)]
        simp only [Option.some.injEq]
        omega
    · refine ⟨v / 262144 % 8 + 0xf0, _, [.ofNat (v / 4096 % 64 + 0x80),
        .ofNat (v / 64 % 64 + 0x80), .ofNat (v % 64 + 0x80)], ?_, by omega, by omega,
        begin?_four (by omega) (by omega), ?_⟩
      · simp only [String.utf8EncodeChar, hval]
        rw [if_neg (by omega), if_neg h₂, if_neg h₃]
      · rw [Begun.completed?_cons (by omega) (by dsimp only; split <;> simp; omega)
          (by dsimp only; split <;> simp <;> omega) (by simp), push_ofNat _ (by omega),
          Begun.completed?_cons (by omega) (by simp) (by simp; omega) (by simp),
          push_ofNat _ (by omega),
          Begun.completed?_last (by omega) (by simp) (by simp; omega) rfl,
          push_ofNat _ (by omega)]
        simp only [Option.some.injEq]
        omega

theorem Begun.completed?_inv {p : Begun} {b : UInt8} {rest : List UInt8} {code : Nat}
    (h : p.completed? (b :: rest) = some code) :
    p.accepts b ∧ (p.owed = 1 ∧ rest = [] ∧ (p.push b).code = code ∨
      p.owed ≠ 1 ∧ (p.push b).completed? rest = some code) := by
  simp only [completed?] at h
  split at h
  · rename_i ha
    refine ⟨ha, ?_⟩
    split at h
    · rename_i ho
      split at h
      · rename_i hr
        exact .inl ⟨ho, hr, Option.some.inj h⟩
      · cases h
    · rename_i ho
      exact .inr ⟨ho, h⟩
  · cases h

theorem decodeFrom_completed {p : Begun} {tail : List UInt8} {code : Nat}
    (h : p.completed? tail = some code) (position : Nat) (rest : List UInt8) :
    decodeFrom position (some p) (tail ++ rest) =
      (decodeFrom (position + tail.length) none rest).map (Char.ofNat code :: ·) := by
  induction tail generalizing p position with
  | nil => simp [Begun.completed?] at h
  | cons b tail ih =>
    obtain ⟨ha, ⟨ho, rfl, rfl⟩ | ⟨ho, h⟩⟩ := Begun.completed?_inv h
    · simp [decodeFrom, ha, ho]
    · simp only [List.cons_append, decodeFrom, ha, ho, ↓reduceIte, ih h, List.length_cons]
      congr 2
      omega

theorem replaceFrom_completed {p : Begun} {tail : List UInt8} {code : Nat}
    (h : p.completed? tail = some code) (rest : List UInt8) :
    replaceFrom (some p) (tail ++ rest) = Char.ofNat code :: replaceFrom none rest := by
  induction tail generalizing p with
  | nil => simp [Begun.completed?] at h
  | cons b tail ih =>
    obtain ⟨ha, ⟨ho, rfl, rfl⟩ | ⟨ho, h⟩⟩ := Begun.completed?_inv h
    · simp [replaceFrom, ha, ho]
    · simp only [List.cons_append, replaceFrom, ha, ho, ↓reduceIte, ih h]

theorem decodeFrom_encodeChar (c : Char) (position : Nat) (rest : List UInt8) :
    ∃ next, decodeFrom position none (String.utf8EncodeChar c ++ rest) =
      (decodeFrom next none rest).map (c :: ·) := by
  by_cases h : c.toNat < 0x80
  · have hm : c.toNat % 256 = c.toNat := Nat.mod_eq_of_lt (by omega)
    exact ⟨position + 1, by simp [encodeChar_ascii h, decodeFrom, UInt8.lt_iff_toNat_lt, hm, h]⟩
  · obtain ⟨n, p, tail, he, hn, hn', hb, hp⟩ := encodeChar_begins c (Nat.le_of_not_lt h)
    have hm : n % 256 = n := Nat.mod_eq_of_lt hn'
    have hs : ¬ UInt8.ofNat n < 0x80 := by
      simp [UInt8.lt_iff_toNat_lt, hm, hn]
    refine ⟨position + 1 + tail.length, ?_⟩
    rw [he, List.cons_append, decodeFrom]
    simp only [hs, ↓reduceIte, hb]
    rw [decodeFrom_completed hp, Char.ofNat_toNat]

theorem replaceFrom_encodeChar (c : Char) (rest : List UInt8) :
    replaceFrom none (String.utf8EncodeChar c ++ rest) = c :: replaceFrom none rest := by
  by_cases h : c.toNat < 0x80
  · have hm : c.toNat % 256 = c.toNat := Nat.mod_eq_of_lt (by omega)
    simp [encodeChar_ascii h, replaceFrom, UInt8.lt_iff_toNat_lt, hm, h]
  · obtain ⟨n, p, tail, he, hn, hn', hb, hp⟩ := encodeChar_begins c (Nat.le_of_not_lt h)
    have hm : n % 256 = n := Nat.mod_eq_of_lt hn'
    have hs : ¬ UInt8.ofNat n < 0x80 := by
      simp [UInt8.lt_iff_toNat_lt, hm, hn]
    rw [he, List.cons_append, replaceFrom]
    simp only [hs, ↓reduceIte, hb]
    rw [replaceFrom_completed hp, Char.ofNat_toNat]

theorem decodeFrom_encoded (cs : List Char) (position : Nat) :
    decodeFrom position none (cs.flatMap String.utf8EncodeChar) = .ok cs := by
  induction cs generalizing position with
  | nil => rfl
  | cons c cs ih =>
    obtain ⟨next, h⟩ := decodeFrom_encodeChar c position (cs.flatMap String.utf8EncodeChar)
    rw [List.flatMap_cons, h, ih]
    rfl

theorem replaceFrom_encoded (cs : List Char) :
    replaceFrom none (cs.flatMap String.utf8EncodeChar) = cs := by
  induction cs with
  | nil => rfl
  | cons c cs ih => rw [List.flatMap_cons, replaceFrom_encodeChar, ih]

/-- What encoding produces, decoding accepts, and it gives the text back. -/
theorem decode_encode (s : String) : decode (encode s) = .ok s := by
  rw [decode, encode, decodeFrom_encoded]
  simp [Except.map]

/-- Replacing what is no text leaves a text alone. -/
theorem decodeReplacing_encode (s : String) : decodeReplacing (encode s) = s := by
  rw [decodeReplacing, encode, replaceFrom_encoded, String.ofList_toList]

theorem replaceFrom_begun_ne_nil (p : Begun) (bs : List UInt8) : replaceFrom (some p) bs ≠ [] := by
  induction bs generalizing p with
  | nil => exact List.cons_ne_nil _ _
  | cons b bs ih =>
    rw [replaceFrom]
    split
    · split
      · exact List.cons_ne_nil _ _
      · exact ih _
    · exact List.cons_ne_nil _ _

/-- Bytes that are no text are replaced by something, so only no bytes at all give no text. -/
theorem decodeReplacing_eq_empty {bs : List UInt8} : decodeReplacing bs = "" ↔ bs = [] := by
  constructor
  · intro h
    cases bs with
    | nil => rfl
    | cons b bs =>
      have hnil : replaceFrom none (b :: bs) = [] := String.ofList_injective h
      rw [replaceFrom] at hnil
      split at hnil
      · cases hnil
      · split at hnil
        · cases hnil
        · exact absurd hnil (replaceFrom_begun_ne_nil _ _)
  · rintro rfl
    rfl

/-- A text has at least as many bytes as characters. -/
theorem length_le_encode (s : String) : s.length ≤ (encode s).length := by
  have h (cs : List Char) : cs.length ≤ (cs.flatMap String.utf8EncodeChar).length := by
    induction cs with
    | nil => simp
    | cons c cs ih =>
      have hc : 0 < (String.utf8EncodeChar c).length :=
        List.length_pos_iff.2 String.utf8EncodeChar_ne_nil
      simp only [List.flatMap_cons, List.length_append, List.length_cons]
      omega
  rw [← String.length_toList]
  exact h s.toList

theorem begin?_cases {b : UInt8} {p : Begun} (h : begin? b = some p) :
    (0xc2 ≤ b.toNat ∧ b.toNat < 0xe0 ∧ p = ⟨b, 1, 1, 0x80, 0xbf, b.toNat - 0xc0⟩) ∨
    (0xe0 ≤ b.toNat ∧ b.toNat < 0xf0 ∧ p = ⟨b, 1, 2, if b.toNat = 0xe0 then 0xa0 else 0x80,
      if b.toNat = 0xed then 0x9f else 0xbf, b.toNat - 0xe0⟩) ∨
    (0xf0 ≤ b.toNat ∧ b.toNat < 0xf5 ∧ p = ⟨b, 1, 3, if b.toNat = 0xf0 then 0x90 else 0x80,
      if b.toNat = 0xf4 then 0x8f else 0xbf, b.toNat - 0xf0⟩) := by
  have hb : UInt8.ofNat b.toNat = b := UInt8.ofNat_toNat
  have hlow : 0xc2 ≤ b.toNat := by
    by_contra hn
    have hlt : b < 0xc2 := by
      rw [UInt8.lt_iff_toNat_lt]
      exact Nat.lt_of_not_le hn
    rw [begin?, if_pos hlt] at h
    cases h
  have hhigh : b.toNat < 0xf5 := by
    by_contra hn
    have hge : 0xf5 ≤ b.toNat := Nat.le_of_not_lt hn
    have hlt := b.toNat_lt
    rw [← hb] at h
    generalize b.toNat = n at *
    interval_cases n <;> cases h
  rw [← hb] at h
  rcases Nat.lt_or_ge b.toNat 0xe0 with h₂ | h₂
  · rw [begin?_two hlow h₂, hb] at h
    exact .inl ⟨hlow, h₂, (Option.some.inj h).symm⟩
  · rcases Nat.lt_or_ge b.toNat 0xf0 with h₃ | h₃
    · rw [begin?_three h₂ h₃, hb] at h
      exact .inr (.inl ⟨h₂, h₃, (Option.some.inj h).symm⟩)
    · rw [begin?_four h₃ hhigh, hb] at h
      exact .inr (.inr ⟨h₃, hhigh, (Option.some.inj h).symm⟩)

theorem Begun.accepts_bounds {p : Begun} {b : UInt8} (h : p.accepts b) :
    p.low.toNat ≤ b.toNat ∧ b.toNat ≤ p.high.toNat := by
  simpa [accepts, UInt8.le_iff_toNat_le] using h

theorem toNat_ofNat {n : Nat} (h : n.isValidChar) : (Char.ofNat n).val.toNat = n := by
  rw [Char.ofNat, dif_pos h]
  rfl

theorem encodeChar_two {b c : UInt8} (hb : 0xc2 ≤ b.toNat ∧ b.toNat < 0xe0)
    (hc : 0x80 ≤ c.toNat ∧ c.toNat ≤ 0xbf) :
    String.utf8EncodeChar (Char.ofNat ((b.toNat - 0xc0) * 64 + (c.toNat - 0x80))) = [b, c] := by
  generalize hn : (b.toNat - 0xc0) * 64 + (c.toNat - 0x80) = n
  have hv : n.isValidChar := .inl (by omega)
  simp only [String.utf8EncodeChar, toNat_ofNat hv]
  rw [if_neg (by omega), if_pos (by omega)]
  simp only [List.cons.injEq, ← UInt8.toNat_inj, UInt8.toNat_ofNat', and_true]
  omega

theorem encodeChar_three {b c d : UInt8} (hb : 0xe0 ≤ b.toNat ∧ b.toNat < 0xf0)
    (hc : (if b.toNat = 0xe0 then 0xa0 else 0x80) ≤ c.toNat ∧ c.toNat ≤ if b.toNat = 0xed then 0x9f else 0xbf)
    (hd : 0x80 ≤ d.toNat ∧ d.toNat ≤ 0xbf) :
    String.utf8EncodeChar (Char.ofNat (((b.toNat - 0xe0) * 64 + (c.toNat - 0x80)) * 64 + (d.toNat - 0x80))) =
      [b, c, d] := by
  generalize hn : ((b.toNat - 0xe0) * 64 + (c.toNat - 0x80)) * 64 + (d.toNat - 0x80) = n
  have hbounds : 0x800 ≤ n ∧ n ≤ 0xffff ∧ (n < 0xd800 ∨ 0xdfff < n) := by split_ifs at hc <;> omega
  have hk : 0x80 ≤ c.toNat ∧ c.toNat ≤ 0xbf := by split_ifs at hc <;> omega
  have hv : n.isValidChar := by
    rcases hbounds.2.2 with h | h
    · exact .inl h
    · exact .inr ⟨h, by omega⟩
  simp only [String.utf8EncodeChar, toNat_ofNat hv]
  rw [if_neg (by omega), if_neg (by omega), if_pos (by omega)]
  simp only [List.cons.injEq, ← UInt8.toNat_inj, UInt8.toNat_ofNat', and_true]
  omega

theorem encodeChar_four {b c d e : UInt8} (hb : 0xf0 ≤ b.toNat ∧ b.toNat < 0xf5)
    (hc : (if b.toNat = 0xf0 then 0x90 else 0x80) ≤ c.toNat ∧ c.toNat ≤ if b.toNat = 0xf4 then 0x8f else 0xbf)
    (hd : 0x80 ≤ d.toNat ∧ d.toNat ≤ 0xbf) (he : 0x80 ≤ e.toNat ∧ e.toNat ≤ 0xbf) :
    String.utf8EncodeChar (Char.ofNat ((((b.toNat - 0xf0) * 64 + (c.toNat - 0x80)) * 64 + (d.toNat - 0x80)) * 64
      + (e.toNat - 0x80))) = [b, c, d, e] := by
  generalize hn : (((b.toNat - 0xf0) * 64 + (c.toNat - 0x80)) * 64 + (d.toNat - 0x80)) * 64 + (e.toNat - 0x80) = n
  have hbounds : 0x10000 ≤ n ∧ n < 0x110000 := by split_ifs at hc <;> omega
  have hk : 0x80 ≤ c.toNat ∧ c.toNat ≤ 0xbf := by split_ifs at hc <;> omega
  have hv : n.isValidChar := .inr ⟨by omega, hbounds.2⟩
  simp only [String.utf8EncodeChar, toNat_ofNat hv]
  rw [if_neg (by omega), if_neg (by omega), if_neg (by omega)]
  simp only [List.cons.injEq, ← UInt8.toNat_inj, UInt8.toNat_ofNat', and_true]
  omega

theorem ite_toNat (c : Prop) [Decidable c] (a b : UInt8) :
    (if c then a else b).toNat = if c then a.toNat else b.toNat := apply_ite _ _ _ _

/-- A character begun and completed is the one whose encoding these bytes are. -/
theorem encodeChar_completed {b : UInt8} {p : Begun} {tail : List UInt8} {code : Nat} (hb : begin? b = some p)
    (h : p.completed? tail = some code) : String.utf8EncodeChar (Char.ofNat code) = b :: tail := by
  cases tail with
  | nil => cases h
  | cons c tail =>
  obtain ⟨hc, h⟩ := Begun.completed?_inv h
  replace hc := Begun.accepts_bounds hc
  rcases begin?_cases hb with ⟨hl, hh, rfl⟩ | ⟨hl, hh, rfl⟩ | ⟨hl, hh, rfl⟩
  · obtain ⟨-, rfl, rfl⟩ | ⟨ho, -⟩ := h
    · exact encodeChar_two ⟨hl, hh⟩ hc
    · exact absurd rfl ho
  · obtain ⟨ho, -⟩ | ⟨-, h⟩ := h
    · cases ho
    cases tail with
    | nil => cases h
    | cons d tail =>
    obtain ⟨hd, ⟨-, rfl, rfl⟩ | ⟨ho, -⟩⟩ := Begun.completed?_inv h
    · simp only [ite_toNat] at hc
      exact encodeChar_three ⟨hl, hh⟩ hc (Begun.accepts_bounds hd)
    · exact absurd rfl ho
  · obtain ⟨ho, -⟩ | ⟨-, h⟩ := h
    · cases ho
    cases tail with
    | nil => cases h
    | cons d tail =>
    obtain ⟨hd, ⟨ho, -⟩ | ⟨-, h⟩⟩ := Begun.completed?_inv h
    · cases ho
    cases tail with
    | nil => cases h
    | cons e tail =>
    obtain ⟨he, ⟨-, rfl, rfl⟩ | ⟨ho, -⟩⟩ := Begun.completed?_inv h
    · simp only [ite_toNat] at hc
      exact encodeChar_four ⟨hl, hh⟩ hc (Begun.accepts_bounds hd) (Begun.accepts_bounds he)
    · exact absurd rfl ho

/-- Decoding that goes on from a character begun completes it first. -/
theorem decodeFrom_begun {p : Begun} {bs : List UInt8} {cs : List Char} {position : Nat}
    (h : decodeFrom position (some p) bs = .ok cs) :
    ∃ tail rest next code cs', bs = tail ++ rest ∧ p.completed? tail = some code ∧
      decodeFrom next none rest = .ok cs' ∧ cs = Char.ofNat code :: cs' := by
  induction bs generalizing p position with
  | nil => cases h
  | cons b bs ih =>
    rw [decodeFrom] at h
    split at h
    · rename_i ha
      split at h
      · rename_i ho
        cases hd : decodeFrom (position + 1) none bs with
        | error f =>
          rw [hd] at h
          cases h
        | ok cs' =>
          rw [hd] at h
          cases h
          exact ⟨[b], bs, _, _, cs', rfl, by simp [Begun.completed?, ha, ho], hd, rfl⟩
      · rename_i ho
        obtain ⟨tail, rest, next, code, cs', rfl, hp, hd, rfl⟩ := ih h
        exact ⟨b :: tail, rest, next, code, cs', rfl, by simp [Begun.completed?, ha, ho, hp], hd, rfl⟩
    · cases h

theorem encodeChar_ofNat_ascii {b : UInt8} (h : b < 0x80) : String.utf8EncodeChar (Char.ofNat b.toNat) = [b] := by
  have hn : b.toNat < 0x80 := h
  have hv : b.toNat.isValidChar := .inl (by omega)
  simp only [String.utf8EncodeChar, toNat_ofNat hv]
  rw [if_pos (by omega), UInt8.ofNat_toNat]

/-- Only encoded characters are decoded. -/
theorem encoded_of_decodeFrom {bs : List UInt8} {cs : List Char} {position : Nat}
    (h : decodeFrom position none bs = .ok cs) : bs = cs.flatMap String.utf8EncodeChar := by
  induction hn : bs.length using Nat.strong_induction_on generalizing bs cs position with
  | _ n ih =>
  cases bs with
  | nil =>
    cases h
    rfl
  | cons b bs =>
    rw [decodeFrom] at h
    split at h
    · rename_i hb
      cases hd : decodeFrom (position + 1) none bs with
      | error f =>
        rw [hd] at h
        cases h
      | ok cs' =>
        rw [hd] at h
        cases h
        have hr := ih bs.length (by simp [← hn]) hd rfl
        rw [List.flatMap_cons, encodeChar_ofNat_ascii hb, ← hr, List.singleton_append]
    · split at h
      · cases h
      · rename_i p hp
        obtain ⟨tail, rest, next, code, cs', rfl, hc, hd, rfl⟩ := decodeFrom_begun h
        have hlt : rest.length < n := by
          rw [← hn]
          simp only [List.length_cons, List.length_append]
          omega
        have hr := ih rest.length hlt hd rfl
        rw [List.flatMap_cons, encodeChar_completed hp hc, ← hr, List.cons_append]

/-- Only what encoding produces is decoded, to the text that it encodes. -/
theorem encode_of_decode {bs : List UInt8} {s : String} (h : decode bs = .ok s) : bs = encode s := by
  unfold decode at h
  cases hd : decodeFrom 0 none bs with
  | error f =>
    rw [hd] at h
    cases h
  | ok cs =>
    rw [hd] at h
    cases h
    rw [encode, String.toList_ofList]
    exact encoded_of_decodeFrom hd

end ForeignBridge.Utf8
