import ForeignBridge.Failure
import Mathlib.Data.List.TakeWhile
import Mathlib.Tactic

/-!
Texts without halves of surrogate pairs. They can be encoded; what is put together from them is one again;
and so are numerals, which are plain text of one line, and every quoted form, which escapes a half.
-/

namespace ForeignBridge

/-- What joins texts holds the characters of the texts and of what stands between them. -/
theorem mem_intercalate {separator : String} {parts : List String} {c : Char}
    (h : c ∈ (separator.intercalate parts).toList) : c ∈ separator.toList ∨ ∃ s ∈ parts, c ∈ s.toList := by
  induction parts with
  | nil => simp at h
  | cons s rest ih =>
    cases rest with
    | nil => exact .inr ⟨s, by simp, by simpa using h⟩
    | cons t rest =>
      rw [String.intercalate_cons_cons, String.toList_append, String.toList_append] at h
      rcases List.mem_append.mp h with h | h
      · rcases List.mem_append.mp h with h | h
        · exact .inr ⟨s, by simp, h⟩
        · exact .inl h
      · obtain h | ⟨u, hu, h⟩ := ih h
        · exact .inl h
        · exact .inr ⟨u, by simp [hu], h⟩

namespace Ascii

/-- A character of printable ASCII, which stands on a line. -/
def IsPlain (c : Char) : Prop := 0x20 ≤ c.toNat ∧ c.toNat < 0x7f

instance (c : Char) : Decidable (IsPlain c) := inferInstanceAs (Decidable (_ ∧ _))

/-- A text of printable ASCII, and so of one line. -/
def Plain (s : String) : Prop := ∀ c ∈ s.toList, IsPlain c

instance (s : String) : Decidable (Plain s) := List.decidableBAll _ _

@[simp] theorem plain_append {s t : String} : Plain (s ++ t) ↔ Plain s ∧ Plain t := by
  simp [Plain, or_imp, forall_and]

@[simp] theorem plain_ofList {cs : List Char} : Plain (String.ofList cs) ↔ ∀ c ∈ cs, IsPlain c := by
  simp [Plain]

theorem plain_intercalate {separator : String} {parts : List String} (hs : Plain separator)
    (hp : ∀ s ∈ parts, Plain s) : Plain (separator.intercalate parts) := by
  intro c hc
  obtain hc | ⟨s, hm, hc⟩ := mem_intercalate hc
  · exact hs c hc
  · exact hp s hm c hc

theorem plain_join {parts : List String} (hp : ∀ s ∈ parts, Plain s) : Plain (String.join parts) := by
  intro c hc
  rw [String.toList_join] at hc
  obtain ⟨s, hs, hc⟩ := List.mem_flatMap.mp hc
  exact hp s hs c hc

theorem isPlain_digitChar : (n : Nat) → IsPlain n.digitChar
  | 0 | 1 | 2 | 3 | 4 | 5 | 6 | 7 | 8 | 9 | 10 | 11 | 12 | 13 | 14 | 15 => by decide
  | n + 16 => by
    have h : (n + 16).digitChar = '*' := by simp [Nat.digitChar]
    rw [h]
    decide

theorem isPlain_of_mem_toDigits {base : Nat} (hb : 1 < base) (n : Nat) :
    ∀ c ∈ Nat.toDigits base n, IsPlain c := by
  induction n using Nat.strong_induction_on with
  | _ n ih =>
    rw [Nat.toDigits_eq_if hb]
    split
    · intro c hc
      rw [List.mem_singleton.mp hc]
      exact isPlain_digitChar n
    · rename_i hn
      intro c hc
      rcases List.mem_append.mp hc with hc | hc
      · exact ih _ (Nat.div_lt_self (by omega) hb) c hc
      · rw [List.mem_singleton.mp hc]
        exact isPlain_digitChar _

theorem plain_nat (n : Nat) : Plain (toString n) := by
  rw [Nat.toString_eq_ofList_toDigits, plain_ofList]
  exact isPlain_of_mem_toDigits (by decide) n

theorem plain_int (i : Int) : Plain (toString i) := by
  cases i with
  | ofNat n => exact plain_nat n
  | negSucc n => exact plain_append.mpr ⟨by decide, plain_nat _⟩

theorem plain_hexPadded (width n : Nat) : Plain (hexPadded width n) := by
  rw [hexPadded, plain_ofList]
  intro c hc
  rcases List.mem_append.mp hc with hc | hc
  · rw [List.eq_of_mem_replicate hc]
    decide
  · exact isPlain_of_mem_toDigits (by decide) n c hc

end Ascii

namespace Surrogate

/-- A character that stands for itself. -/
def IsWhole (c : Char) : Prop := isHalf (codeOf c) = false

instance (c : Char) : Decidable (IsWhole c) := inferInstanceAs (Decidable (_ = _))

/-- A text without halves. -/
def Whole (s : String) : Prop := ∀ c ∈ s.toList, IsWhole c

instance (s : String) : Decidable (Whole s) := List.decidableBAll _ _

theorem isWhole_of_lt {c : Char} (h : c.toNat < 0xd800) : IsWhole c := by
  have h₀ : c.toNat - 0x100000 = 0 := by omega
  have h₁ : ¬ 0xd800 ≤ c.toNat := by omega
  simp [IsWhole, codeOf, h₀, isHalf, h₁]

/-- What is no private character of those kept for halves stands for itself. -/
theorem isWhole_of_not_kept {c : Char} (h : ¬ (0x10d800 ≤ c.toNat ∧ c.toNat < 0x10e000)) : IsWhole c := by
  have hv : c.toNat < 0xd800 ∨ 0xdfff < c.toNat ∧ c.toNat < 0x110000 := c.valid
  have hk : ¬ isHalf (c.toNat - 0x100000) = true := by
    simp only [isHalf, Bool.and_eq_true, decide_eq_true_eq]
    omega
  rw [IsWhole, codeOf, if_neg hk]
  simp only [isHalf, Bool.and_eq_false_iff, decide_eq_false_iff_not]
  omega

@[simp] theorem whole_append {s t : String} : Whole (s ++ t) ↔ Whole s ∧ Whole t := by
  simp [Whole, or_imp, forall_and]

@[simp] theorem whole_ofList {cs : List Char} : Whole (String.ofList cs) ↔ ∀ c ∈ cs, IsWhole c := by
  simp [Whole]

theorem isWhole_of_isPlain {c : Char} (h : Ascii.IsPlain c) : IsWhole c := by
  have hlast := h.2
  exact isWhole_of_lt (by omega)

theorem whole_of_plain {s : String} (h : Ascii.Plain s) : Whole s :=
  fun c hc => isWhole_of_isPlain (h c hc)

@[simp] theorem whole_nat (n : Nat) : Whole (toString n) := whole_of_plain (Ascii.plain_nat n)

@[simp] theorem whole_int (i : Int) : Whole (toString i) := whole_of_plain (Ascii.plain_int i)

theorem whole_intercalate {separator : String} {parts : List String} (hs : Whole separator)
    (hp : ∀ s ∈ parts, Whole s) : Whole (separator.intercalate parts) := by
  intro c hc
  obtain hc | ⟨s, hm, hc⟩ := mem_intercalate hc
  · exact hs c hc
  · exact hp s hm c hc

theorem whole_join {parts : List String} (hp : ∀ s ∈ parts, Whole s) : Whole (String.join parts) := by
  intro c hc
  rw [String.toList_join] at hc
  obtain ⟨s, hs, hc⟩ := List.mem_flatMap.mp hc
  exact hp s hs c hc

theorem firstRun?_of_whole {s : String} (h : Whole s) : firstRun? s.toList = none := by
  have hb : s.toList.takeWhile (fun c => !isHalf (codeOf c)) = s.toList :=
    List.takeWhile_eq_self_iff.mpr fun c hc => by simpa [IsWhole] using h c hc
  simp [firstRun?, hb]

end Surrogate

/-- A text without halves is encoded as it is. -/
theorem Failure.ofEncoding_whole {s : String} (h : Surrogate.Whole s) : ofEncoding s = .ok (Utf8.encode s) := by
  rw [ofEncoding, Surrogate.firstRun?_of_whole h]

/-- A code above all but the last range is found if the last one holds it. -/
theorem CodeRanges.search_last {init : List (Nat × Nat)} {code first last : Nat}
    (hr : ∀ r ∈ init, r.1 ≤ r.2 ∧ r.2 < code) (hf : first ≤ code) (hl : code ≤ last)
    {fuel low : Nat} (hlow : low ≤ init.length) (hfuel : init.length < low + fuel) :
    search (init ++ [(first, last)]).toArray code fuel low (init.length + 1) = true := by
  induction fuel generalizing low with
  | zero => omega
  | succ fuel ih =>
    unfold search
    rw [if_neg (by omega)]
    by_cases hm : (low + (init.length + 1)) / 2 = init.length
    · have hp : (init ++ [(first, last)]).toArray.getD init.length (0, 0) = (first, last) := by
        simp [Array.getD]
      simp only [hm, hp]
      rw [if_neg (by omega), if_neg (by omega)]
    · have hi : (low + (init.length + 1)) / 2 < init.length := by omega
      have hp : (init ++ [(first, last)]).toArray.getD ((low + (init.length + 1)) / 2) (0, 0) =
          init[(low + (init.length + 1)) / 2] := by
        simp [Array.getD, hi, List.getElem_append_left, Nat.lt_succ_of_lt hi]
      obtain ⟨hle, hlt⟩ := hr _ (List.getElem_mem hi)
      simp only [hp]
      rw [if_neg (by omega), if_pos hlt]
      exact ih (by omega) (by omega)

theorem hiddenRanges_dropLast : hiddenRanges.toList.dropLast.all (fun r => r.1 ≤ r.2 && r.2 < 0xe01f0) = true := by
  decide +kernel

theorem hiddenRanges_getLast? : hiddenRanges.toList.getLast? = some (0xe01f0, 0x10ffff) := by
  decide +kernel

namespace Quoted

open Surrogate

/-- A character that is shown as it is stands for itself. -/
theorem isWhole_of_isPrintable {c : Char} (h : isPrintable c = true) : IsWhole c := by
  refine isWhole_of_not_kept fun hk => ?_
  have hb : ∀ r ∈ hiddenRanges.toList.dropLast, r.1 ≤ r.2 ∧ r.2 < c.toNat := by
    intro r hm
    have hr := List.all_eq_true.mp hiddenRanges_dropLast r hm
    simp only [Bool.and_eq_true, decide_eq_true_eq] at hr
    omega
  have he : hiddenRanges = (hiddenRanges.toList.dropLast ++ [(0xe01f0, 0x10ffff)]).toArray := by
    rw [List.dropLast_append_getLast? _ hiddenRanges_getLast?]
  have hs : hiddenRanges.holds c = true := by
    generalize hiddenRanges.toList.dropLast = init at hb he
    have hsize : hiddenRanges.size = init.length + 1 := by rw [he, List.size_toArray, List.length_append]; rfl
    rw [CodeRanges.holds, hsize, he]
    exact CodeRanges.search_last hb (by omega) (by omega) (Nat.zero_le _) (by omega)
  rw [isPrintable, if_neg (by omega), hs] at h
  cases h

theorem whole_codeEscape (code : Nat) : Whole (codeEscape code) := by
  unfold codeEscape
  split_ifs <;> exact whole_append.mpr ⟨by decide, whole_of_plain (Ascii.plain_hexPadded _ _)⟩

theorem isWhole_quoteFor (hasSingle hasDouble : Bool) : IsWhole (quoteFor hasSingle hasDouble) := by
  cases hasSingle <;> cases hasDouble <;> decide

theorem whole_char {c : Char} (h : IsWhole c) : Whole c.toString := by
  intro d hd
  simp only [Char.toString_eq_singleton, String.toList_singleton, List.mem_singleton] at hd
  subst hd
  exact h

theorem whole_backslash {c : Char} (h : IsWhole c) : Whole (String.ofList ['\\', c]) := by
  rw [whole_ofList]
  intro d hd
  rcases List.mem_cons.mp hd with rfl | hd
  · decide
  · rwa [List.mem_singleton.mp hd]

theorem whole_escapedChar (codeOf : Char → Nat) {quote : Char} (hq : IsWhole quote) (c : Char) :
    Whole (escapedChar codeOf quote c) := by
  unfold escapedChar
  split
  · rename_i h
    apply whole_backslash
    rcases h with rfl | rfl
    · exact hq
    · decide
  split
  · decide
  split
  · decide
  split
  · decide
  split
  · exact whole_char (isWhole_of_isPrintable (by assumption))
  · exact whole_codeEscape _

/-- A quoted text has no halves: they are escaped. -/
theorem whole_textOf (codeOf : Char → Nat) (s : String) : Whole (textOf codeOf s) := by
  have hq := isWhole_quoteFor (s.toList.contains '\'') (s.toList.contains '"')
  refine whole_append.mpr ⟨whole_append.mpr ⟨whole_char hq, whole_join fun t ht => ?_⟩, whole_char hq⟩
  obtain ⟨c, -, rfl⟩ := List.mem_map.mp ht
  exact whole_escapedChar codeOf hq c

theorem whole_text (s : String) : Whole (text s) := whole_textOf _ s

theorem isWhole_byte (b : UInt8) : IsWhole (Char.ofNat b.toNat) := by
  apply isWhole_of_lt
  have hb : b.toNat < 256 := b.toNat_lt
  have hv : b.toNat.isValidChar := .inl (by omega)
  have hc : (Char.ofNat b.toNat).toNat = b.toNat := by
    rw [Char.ofNat, dif_pos hv]
    rfl
  omega

theorem whole_escapedByte (quote : Char) (b : UInt8) : Whole (escapedByte quote b) := by
  unfold escapedByte
  extract_lets c
  split_ifs
  · exact whole_backslash (isWhole_byte b)
  · decide
  · decide
  · decide
  · exact whole_append.mpr ⟨by decide, whole_of_plain (Ascii.plain_hexPadded _ _)⟩
  · exact whole_char (isWhole_byte b)

theorem whole_bytes (bs : List UInt8) : Whole (bytes bs) := by
  have hq := isWhole_quoteFor (bs.contains 39) (bs.contains 34)
  refine whole_append.mpr ⟨whole_append.mpr ⟨whole_append.mpr ⟨by decide, whole_char hq⟩,
    whole_join fun t ht => ?_⟩, whole_char hq⟩
  obtain ⟨b, -, rfl⟩ := List.mem_map.mp ht
  exact whole_escapedByte _ b

end Quoted

end ForeignBridge
