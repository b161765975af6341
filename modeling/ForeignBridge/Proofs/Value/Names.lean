import ForeignBridge.Proofs.Text.Whole
import ForeignBridge.Proofs.Value.Lookup
import ForeignBridge.Value.Equal

/-!
The names in a value: of its class, its fields, its members and their enum. What a message shows of a value
are such names, numerals and quoted texts, so it has no halves if they have none.
-/

namespace ForeignBridge

open Surrogate Ascii

theorem Decimal.isPlain_ofScaled (n : Nat) (scale : Int) : ∀ c ∈ (ofScaled n scale).digits, IsPlain c := by
  intro c hc
  unfold ofScaled at hc
  dsimp only at hc
  split at hc
  · rw [List.mem_singleton.mp hc]
    decide
  · have hd : c ∈ (Nat.toDigits 10 n).reverse :=
      (List.dropWhile_sublist _).mem (List.mem_reverse.mp hc)
    exact isPlain_of_mem_toDigits (by decide) n c (List.mem_reverse.mp hd)

theorem Decimal.plain_exponentText (e : Int) : Plain (exponentText e) := by
  unfold exponentText
  refine plain_append.mpr ⟨?_, ?_⟩
  · split <;> decide
  · split
    · exact plain_append.mpr ⟨by decide, plain_nat _⟩
    · exact plain_nat _

theorem Decimal.plain_scientific {d : Decimal} (h : ∀ c ∈ d.digits, IsPlain c) : Plain d.scientific := by
  unfold scientific
  split
  · decide
  · rename_i c rest hd
    rw [hd] at h
    refine plain_append.mpr ⟨plain_ofList.mpr fun a ha => ?_, plain_exponentText _⟩
    rcases List.mem_cons.mp ha with rfl | ha
    · exact h _ (by simp)
    split at ha
    · cases ha
    rcases List.mem_cons.mp ha with rfl | ha
    · decide
    · exact h a (List.mem_cons_of_mem _ ha)

theorem Decimal.plain_positional {d : Decimal} (h : ∀ c ∈ d.digits, IsPlain c) : Plain d.positional := by
  have hz : ∀ n, ∀ c ∈ List.replicate n '0', IsPlain c := by
    intro n c hc
    rw [List.eq_of_mem_replicate hc]
    decide
  unfold positional
  dsimp only
  split
  · refine plain_append.mpr ⟨by decide, plain_ofList.mpr fun c hc => ?_⟩
    exact (List.mem_append.mp hc).elim (hz _ c) (h c)
  · refine plain_append.mpr ⟨plain_append.mpr ⟨plain_ofList.mpr fun c hc => ?_, by decide⟩, ?_⟩
    · exact (List.mem_append.mp hc).elim (fun hc => h c (List.mem_of_mem_take hc)) (hz _ c)
    · split
      · decide
      · exact plain_ofList.mpr fun c hc => h c (List.mem_of_mem_drop hc)

theorem Decimal.plain_shortest (f : BinaryFormat) (mantissa : Nat) (exponent : Int) :
    ∀ c ∈ (shortest f mantissa exponent).digits, IsPlain c :=
  isPlain_ofScaled _ _

theorem Double.plain_text (x : Double) : Plain x.text := by
  unfold text
  split
  · decide
  · split <;> decide
  · rename_i s m e _
    have hb : Plain (if m = 0 then "0.0" else
        let d := Decimal.shortest .double m e
        if -4 ≤ d.leading ∧ d.leading < 16 then d.positional else d.scientific) := by
      have hd := Decimal.plain_shortest .double m e
      split
      · decide
      · dsimp only
        split
        · exact Decimal.plain_positional hd
        · exact Decimal.plain_scientific hd
    dsimp only at hb ⊢
    split
    · exact plain_append.mpr ⟨by decide, hb⟩
    · exact hb

theorem Double.whole_text (x : Double) : Whole x.text := whole_of_plain x.plain_text

theorem Span.whole_quoted (s : Span) : Whole s.quoted := by
  unfold quoted
  extract_lets part parts
  have hpart : ∀ name, Whole name → ∀ n, ∀ t ∈ part name n, Whole t := by
    intro name hn n t ht
    dsimp only [part] at ht
    split at ht
    · cases ht
    · rw [List.mem_singleton.mp ht, whole_append, whole_append]
      exact ⟨⟨hn, by decide⟩, whole_int n⟩
  have hparts : ∀ t ∈ parts, Whole t := by
    intro t ht
    rcases List.mem_append.mp ht with ht | ht
    · rcases List.mem_append.mp ht with ht | ht
      · exact hpart "days" (by decide) _ t ht
      · exact hpart "seconds" (by decide) _ t ht
    · exact hpart "microseconds" (by decide) _ t ht
  rw [whole_append, whole_append]
  refine ⟨⟨by decide, ?_⟩, by decide⟩
  split
  · decide
  · exact whole_intercalate (by decide) hparts

theorem Moment.whole_quoted (t : Moment) : Whole t.quoted := by
  unfold quoted
  extract_lets small numbers zone
  have hz : ∀ s ∈ zone, Whole s := by
    intro s hs
    dsimp only [zone] at hs
    split at hs
    · cases hs
    · rw [List.mem_singleton.mp hs]
      decide
    · rw [List.mem_singleton.mp hs, whole_append, whole_append]
      exact ⟨⟨by decide, Span.whole_quoted _⟩, by decide⟩
  rw [whole_append, whole_append]
  refine ⟨⟨by decide, whole_intercalate (by decide) fun s hs => ?_⟩, by decide⟩
  rcases List.mem_append.mp hs with hs | hs
  · obtain ⟨n, -, rfl⟩ := List.mem_map.mp hs
    exact whole_int n
  · exact hz s hs

theorem Date.whole_quoted (d : Date) : Whole d.quoted := by
  unfold quoted
  rw [whole_append, whole_append, whole_append, whole_append, whole_append, whole_append]
  exact ⟨⟨⟨⟨⟨⟨by decide, whole_int _⟩, by decide⟩, whole_int _⟩, by decide⟩, whole_int _⟩, by decide⟩

mutual

/-- A value whose names are without halves. -/
def Value.Named : Value → Prop
  | .list items | .tuple items => NamedAll items
  | .dict entries => NamedEntries entries
  | .record cls _ fields => Whole cls ∧ NamedFields fields
  | .member enum name value => Whole enum ∧ Whole name ∧ value.Named
  | .declared kind message => Whole kind ∧ message.Named
  | .exception cls _ _ | .thing cls _ | .wrapper cls _ | .received cls _ | .implementation cls _ _ => Whole cls
  | _ => True

def NamedAll : List Value → Prop
  | [] => True
  | v :: rest => v.Named ∧ NamedAll rest

def NamedEntries : List (Value × Value) → Prop
  | [] => True
  | (k, v) :: rest => k.Named ∧ v.Named ∧ NamedEntries rest

def NamedFields : List (String × Option Value) → Prop
  | [] => True
  | (name, some v) :: rest => Whole name ∧ v.Named ∧ NamedFields rest
  | (name, none) :: rest => Whole name ∧ NamedFields rest

end

theorem namedAll_iff {items : List Value} : NamedAll items ↔ ∀ v ∈ items, v.Named := by
  induction items with
  | nil => simp [NamedAll]
  | cons v rest ih => simp [NamedAll, ih]

theorem namedEntries_iff {entries : List (Value × Value)} :
    NamedEntries entries ↔ ∀ e ∈ entries, e.1.Named ∧ e.2.Named := by
  induction entries with
  | nil => simp [NamedEntries]
  | cons e rest ih => simp [NamedEntries, ih, and_assoc]

theorem namedFields_iff {fields : List (String × Option Value)} :
    NamedFields fields ↔ ∀ f ∈ fields, Whole f.1 ∧ ∀ v, f.2 = some v → v.Named := by
  induction fields with
  | nil => simp [NamedFields]
  | cons f rest ih =>
    obtain ⟨name, _ | v⟩ := f
    · simp [NamedFields, ih]
    · simp [NamedFields, ih, and_assoc]

namespace Value

theorem whole_typeName {v : Value} (h : v.Named) : Whole v.typeName := by
  unfold typeName
  split <;> first
    | decide
    | (simp only [Named] at h; first | exact h | exact h.1)

theorem whole_qualifiedTypeName {v : Value} (h : v.Named) : Whole v.qualifiedTypeName := by
  unfold qualifiedTypeName
  split
  · decide
  · decide
  · decide
  · exact whole_typeName h

end Value

mutual

theorem Value.whole_quoted : (v : Value) → v.Named → Whole v.quoted
  | .null, _ => by
    rw [Value.quoted]
    decide
  | .bool b, _ => by
    rw [Value.quoted]
    cases b <;> decide
  | .int i, _ => whole_int i
  | .float x, _ => x.whole_text
  | .text s, _ => Quoted.whole_textOf _ s
  | .halved s, _ => Quoted.whole_text s
  | .bytes .frozen data, _ => Quoted.whole_bytes data
  | .bytes .growable data, _ => whole_append.mpr ⟨whole_append.mpr ⟨by decide, Quoted.whole_bytes data⟩, by decide⟩
  | .bytes .view _, _ => by
    rw [Value.quoted]
    decide
  | .list items, h => by
    rw [Value.quoted, whole_append, whole_append]
    exact ⟨⟨by decide, whole_intercalate (by decide) (whole_quotedAll items h)⟩, by decide⟩
  | .tuple [item], h => by
    rw [Value.quoted, whole_append, whole_append]
    exact ⟨⟨by decide, item.whole_quoted h.1⟩, by decide⟩
  | .tuple [], _ => by
    rw [Value.quoted]
    · decide
    · nofun
  | .tuple (v :: w :: rest), h => by
    rw [Value.quoted, whole_append, whole_append]
    · exact ⟨⟨by decide, whole_intercalate (by decide) (whole_quotedAll _ h)⟩, by decide⟩
    · nofun
  | .dict entries, h => by
    rw [Value.quoted, whole_append, whole_append]
    exact ⟨⟨by decide, whole_intercalate (by decide) (whole_quotedEntries entries h)⟩, by decide⟩
  | .moment t, _ => t.whole_quoted
  | .date d, _ => d.whole_quoted
  | .span s, _ => s.whole_quoted
  | .record cls _ fields, h => by
    rw [Value.quoted]
    simp only [whole_append]
    exact ⟨⟨⟨h.1, by decide⟩, whole_intercalate (by decide) (whole_quotedFields fields h.2)⟩, by decide⟩
  | .member enum name value, h => by
    rw [Value.quoted]
    simp only [whole_append]
    exact ⟨⟨⟨⟨⟨⟨by decide, h.1⟩, by decide⟩, h.2.1⟩, by decide⟩, value.whole_quoted h.2.2⟩, by decide⟩
  | .declared kind message, h => by
    rw [Value.quoted]
    simp only [whole_append]
    exact ⟨⟨⟨h.1, by decide⟩, message.whole_quoted h.2⟩, by decide⟩
  | .exception cls _ message, h => by
    rw [Value.quoted]
    simp only [whole_append]
    exact ⟨⟨⟨h, by decide⟩, Quoted.whole_text message⟩, by decide⟩
  | .thing cls _, h | .wrapper cls _, h | .received cls _, h | .implementation cls _ _, h => by
    rw [Value.quoted, whole_append, whole_append]
    exact ⟨⟨by decide, h⟩, by decide⟩

theorem Value.whole_quotedAll : (items : List Value) → NamedAll items → ∀ t ∈ Value.quotedAll items, Whole t
  | [], _ => nofun
  | v :: rest, h => by
    rw [Value.quotedAll, List.forall_mem_cons]
    exact ⟨v.whole_quoted h.1, whole_quotedAll rest h.2⟩

theorem Value.whole_quotedEntries : (entries : List (Value × Value)) → NamedEntries entries →
    ∀ t ∈ Value.quotedEntries entries, Whole t
  | [], _ => nofun
  | (k, v) :: rest, h => by
    rw [Value.quotedEntries, List.forall_mem_cons, whole_append, whole_append]
    exact ⟨⟨⟨k.whole_quoted h.1, by decide⟩, v.whole_quoted h.2.1⟩, whole_quotedEntries rest h.2.2⟩

theorem Value.whole_quotedFields : (fields : List (String × Option Value)) → NamedFields fields →
    ∀ t ∈ Value.quotedFields fields, Whole t
  | [], _ => nofun
  | (name, some v) :: rest, h => by
    rw [Value.quotedFields, List.forall_mem_cons, whole_append, whole_append]
    exact ⟨⟨⟨h.1, by decide⟩, v.whole_quoted h.2.1⟩, whole_quotedFields rest h.2.2⟩
  | (_, none) :: rest, h => by
    rw [Value.quotedFields]
    exact whole_quotedFields rest h.2

end

mutual

theorem Value.whole_unhashable? : (v : Value) → v.Named → ∀ name, v.unhashable? = some name → Whole name
  | .list _, hv, _, h | .dict _, hv, _, h | .bytes .growable _, hv, _, h => by
    rw [Value.unhashable?, Option.some.injEq] at h
    rw [← h]
    exact Value.whole_typeName hv
  | .record cls _ _, hv, _, h => by
    rw [Value.unhashable?, Option.some.injEq] at h
    rw [← h]
    exact hv.1
  | .tuple items, hv, name, h => whole_unhashableIn? items hv name h
  | .declared _ message, hv, name, h => message.whole_unhashable? hv.2 name h
  | .null, _, _, h | .bool _, _, _, h | .int _, _, _, h | .float _, _, _, h | .text _, _, _, h
  | .halved _, _, _, h | .bytes .frozen _, _, _, h | .bytes .view _, _, _, h | .moment _, _, _, h
  | .date _, _, _, h | .span _, _, _, h | .member .., _, _, h | .exception .., _, _, h | .thing .., _, _, h
  | .wrapper .., _, _, h | .received .., _, _, h | .implementation .., _, _, h => nomatch h

theorem Value.whole_unhashableIn? : (items : List Value) → NamedAll items →
    ∀ name, Value.unhashableIn? items = some name → Whole name
  | [], _, _, h => nomatch h
  | v :: rest, hv, name, h => by
    rw [Value.unhashableIn?] at h
    split at h
    · rename_i found hf
      rw [← Option.some.inj h]
      exact v.whole_unhashable? hv.1 found hf
    · exact whole_unhashableIn? rest hv.2 name h

end

mutual

theorem Value.whole_lacking? : (v : Value) → v.Named → ∀ p, v.lacking? = some p → Whole p.1 ∧ Whole p.2
  | .list items, hv, p, h | .tuple items, hv, p, h => whole_lackingIn? items hv p h
  | .dict entries, hv, p, h => whole_lackingInEntries? entries hv p h
  | .record cls _ fields, hv, p, h => whole_lackingInFields? cls hv.1 fields hv.2 p h
  | .member _ _ value, hv, p, h => value.whole_lacking? hv.2.2 p h
  | .declared _ message, hv, p, h => message.whole_lacking? hv.2 p h
  | .null, _, _, h | .bool _, _, _, h | .int _, _, _, h | .float _, _, _, h | .text _, _, _, h
  | .halved _, _, _, h | .bytes .., _, _, h | .moment _, _, _, h | .date _, _, _, h | .span _, _, _, h
  | .exception .., _, _, h | .thing .., _, _, h | .wrapper .., _, _, h | .received .., _, _, h
  | .implementation .., _, _, h => nomatch h

theorem Value.whole_lackingIn? : (items : List Value) → NamedAll items →
    ∀ p, Value.lackingIn? items = some p → Whole p.1 ∧ Whole p.2
  | [], _, _, h => nomatch h
  | v :: rest, hv, p, h => by
    rw [Value.lackingIn?, Option.orElse_eq_or, Option.or_eq_some_iff] at h
    rcases h with h | ⟨-, h⟩
    · exact v.whole_lacking? hv.1 p h
    · exact whole_lackingIn? rest hv.2 p h

theorem Value.whole_lackingInEntries? : (entries : List (Value × Value)) → NamedEntries entries →
    ∀ p, Value.lackingInEntries? entries = some p → Whole p.1 ∧ Whole p.2
  | [], _, _, h => nomatch h
  | (k, v) :: rest, hv, p, h => by
    simp only [Value.lackingInEntries?, Option.orElse_eq_or, Option.or_eq_some_iff] at h
    rcases h with (h | ⟨-, h⟩) | ⟨-, h⟩
    · exact k.whole_lacking? hv.1 p h
    · exact v.whole_lacking? hv.2.1 p h
    · exact whole_lackingInEntries? rest hv.2.2 p h

theorem Value.whole_lackingInFields? (cls : String) (hc : Whole cls) : (fields : List (String × Option Value)) →
    NamedFields fields → ∀ p, Value.lackingInFields? cls fields = some p → Whole p.1 ∧ Whole p.2
  | [], _, _, h => nomatch h
  | (_, some v) :: rest, hv, p, h => by
    rw [Value.lackingInFields?, Option.orElse_eq_or, Option.or_eq_some_iff] at h
    rcases h with h | ⟨-, h⟩
    · exact v.whole_lacking? hv.2.1 p h
    · exact whole_lackingInFields? cls hc rest hv.2.2 p h
  | (name, none) :: _, hv, p, h => by
    rw [Value.lackingInFields?, Option.some.injEq] at h
    rw [← h]
    exact ⟨hc, hv.1⟩

end

namespace Value

theorem named_of_lookup {name : String} {a : Value} {attributes : List (String × Value)}
    (ha : ∀ p ∈ attributes, p.2.Named) (h : lookup name attributes = some a) : a.Named := by
  exact ha _ (lookup_mem h)

/-- The attributes of a named value are named. -/
theorem Named.attribute? {v a : Value} {name : String} (hv : v.Named) (h : v.attribute? name = some a) : a.Named := by
  unfold Value.attribute? at h
  extract_lets named number whole at h
  have hl : ∀ attributes : List (String × Value), (∀ p ∈ attributes, p.2.Named) → named attributes = some a → a.Named :=
    fun attributes ha h => named_of_lookup ha h
  have hw : ∀ i, whole i = some a → a.Named := fun i h => hl _ (by simp [number, Named]) h
  split at h
  · exact hw _ h
  · exact hw _ h
  · exact hl _ (by simp [number, Named]) h
  · rename_i fields
    have hm := lookup_mem (Option.join_eq_some_iff.mp h)
    exact (namedFields_iff.mp hv.2 _ hm).2 a rfl
  · exact hl _ (by simpa [Named, NamedAll] using hv.2) h
  · exact hl _ (by simp [Named, NamedAll]) h
  · exact hl _ (by simpa [Named] using hv.2.2) h
  · exact hl _ (by simp [Named]) h
  · exact hl _ (by simp [Named]) h
  · exact hl _ (by simp [Named]) h
  · cases h

end Value

end ForeignBridge
