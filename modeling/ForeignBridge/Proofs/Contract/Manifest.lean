import Mathlib.Data.List.Nodup
import ForeignBridge.Contract.Manifest
import ForeignBridge.Proofs.Config.Settings

/-!
Manifests as documents. A manifest that passes its own checks is read again from its document, with the checksums in
their order, whatever the order of the document's entries.
-/

namespace ForeignBridge

/-! ### Entries -/

namespace Entry

variable {α : Type} {doc : Value} {name : String} {absent a : α} {read : Value → Checked α}

theorem required_eq_ok : required doc name read = .ok a ↔ ∃ v, doc.field? name = some v ∧ read v = .ok a := by
  unfold required
  cases doc.field? name with
  | none => simp [Checked.refuse, Checked.under]
  | some v => simp [Checked.under_eq_ok]

theorem optional_eq_ok : optional doc name absent read = .ok a ↔
    doc.field? name = none ∧ absent = a ∨ ∃ v, doc.field? name = some v ∧ read v = .ok a := by
  unfold optional
  cases doc.field? name with
  | none => simp
  | some v => simp [Checked.under_eq_ok]

theorem between_of_wholeFrom {least greatest i : Int} {v : Value} (h : wholeFrom least (some greatest) v = .ok i) :
    least ≤ i ∧ i ≤ greatest := by
  obtain ⟨j, -, h⟩ := Checked.andThen_eq_ok.mp h
  obtain ⟨k, hk, h⟩ := Checked.andThen_eq_ok.mp h
  unfold atLeast at hk
  dsimp only [atMost] at h
  split_ifs at hk with hj
  · cases hk
  · split_ifs at h with hi
    · cases h
    · cases hk
      cases h
      exact ⟨Int.not_lt.mp hj, Int.not_lt.mp hi⟩

theorem nodup_of_mapping {v : Value} {named : List (String × α)} (h : mapping read v = .ok named) :
    (named.map Prod.fst).Nodup := by
  cases v with
  | dict entries =>
    obtain ⟨pairs, -, rfl⟩ := Checked.map_eq_ok.mp h
    exact Value.nodup_foldl_put pairs List.nodup_nil
  | _ => cases h

theorem wholeFrom_int_between {least greatest i : Int} (hleast : least ≤ i) (hgreatest : i ≤ greatest) :
    wholeFrom least (some greatest) (.int i) = .ok i := by
  have hl : atLeast least i = .ok i := if_neg (Int.not_lt.mpr hleast)
  have hg : atMost greatest i = .ok i := if_neg (Int.not_lt.mpr hgreatest)
  change (atLeast least i).andThen _ = _
  rw [hl]
  exact hg

/-- Distinct names without halves of surrogate pairs, and whole numbers under them, are read as they are. -/
theorem mapping_whole {sums : List (String × Int)} (hnames : (sums.map Prod.fst).Nodup)
    (hwhole : ∀ s ∈ sums, Surrogate.occursIn s.1.toList = false) :
    mapping whole (.ofMembers (sums.map fun s => (s.1, .int s.2))) = .ok sums := by
  have hall : Checked.all (mapping.pair whole)
      ((sums.map fun s => (s.1, Value.int s.2)).map fun e => (Value.text e.1, e.2)) = .ok sums := by
    clear hnames
    induction sums with
    | nil => rfl
    | cons s rest ih =>
      obtain ⟨hs, hrest⟩ := List.forall_mem_cons.mp hwhole
      have hkey : mapping.key (.text s.1) = .text s.1 := by
        rw [mapping.key, Value.ofText, hs]
        rfl
      have hpair : mapping.pair whole (.text s.1, .int s.2) = .ok s := by
        unfold mapping.pair
        rw [hkey]
        rfl
      rw [List.map_cons, List.map_cons, Checked.all, hpair, ih hrest]
      rfl
  rw [Value.ofMembers, mapping, hall]
  have hsums : sums.foldl (fun found s => Value.put s.1 (id s.2) found) [] = [] ++ sums.map fun s => (s.1, id s.2) :=
    Value.foldl_put_of_nodup (by simpa using hnames)
  have hsame : [] ++ (sums.map fun s => (s.1, id s.2)) = sums := by simp
  exact congrArg Checked.ok (hsums.trans hsame)

end Entry

namespace ContractManifest

variable {doc : Value} {m : ContractManifest}

theorem ofDocument_eq_ok : ofDocument doc = .ok m ↔
    Entry.required doc "namespace" spaceEntry = .ok m.space
    ∧ Entry.required doc "contract_version" (Entry.wholeFrom 0 (some greatestVersion)) = .ok m.version
    ∧ Entry.optional doc "contract_version_symbol" none Entry.optionalText = .ok m.versionSymbolOverride
    ∧ Entry.optional doc "checksums" [] checksumsEntry = .ok m.checksums := by
  unfold ofDocument
  constructor
  · intro h
    obtain ⟨_, _, g₃, h₄, rfl⟩ := Checked.seq_eq_ok.mp h
    obtain ⟨_, _, g₂, h₃, rfl⟩ := Checked.seq_eq_ok.mp g₃
    obtain ⟨_, _, g₁, h₂, rfl⟩ := Checked.seq_eq_ok.mp g₂
    obtain ⟨_, h₁, rfl⟩ := Checked.fmap_eq_ok.mp g₁
    exact ⟨h₁, h₂, h₃, h₄⟩
  · rintro ⟨h₁, h₂, h₃, h₄⟩
    rw [h₁, h₂, h₃, h₄]
    rfl

/-- What the checks of a manifest ask of it. -/
structure Valid (m : ContractManifest) : Prop where
  space : isIdentifier m.space = true
  version : 0 ≤ m.version ∧ m.version ≤ greatestVersion
  symbols : (m.checksums.map Prod.fst).Nodup
  characters : ∀ c ∈ m.checksums, Surrogate.occursIn c.1.toList = false
  checksums : ∀ c ∈ m.checksums, 0 ≤ c.2 ∧ c.2 ≤ greatestChecksum

instance (m : ContractManifest) : Decidable m.Valid :=
  decidable_of_iff (isIdentifier m.space = true ∧ (0 ≤ m.version ∧ m.version ≤ greatestVersion) ∧
      (m.checksums.map Prod.fst).Nodup ∧ (∀ c ∈ m.checksums, Surrogate.occursIn c.1.toList = false) ∧
      ∀ c ∈ m.checksums, 0 ≤ c.2 ∧ c.2 ≤ greatestChecksum)
    ⟨fun h => ⟨h.1, h.2.1, h.2.2.1, h.2.2.2.1, h.2.2.2.2⟩, fun h => ⟨h.1, h.2, h.3, h.4, h.5⟩⟩

theorem valid_checksums {v : Value} {sums : List (String × Int)} (h : checksumsEntry v = .ok sums) :
    (sums.map Prod.fst).Nodup ∧ ∀ c ∈ sums, 0 ≤ c.2 ∧ c.2 ≤ greatestChecksum := by
  obtain ⟨found, hmapping, h⟩ := Checked.andThen_eq_ok.mp h
  split at h
  · cases h
  · rename_i hnone
    cases h
    refine ⟨Entry.nodup_of_mapping hmapping, ?_⟩
    intro c hc
    have hbounds := List.find?_eq_none.mp hnone c hc
    simpa using hbounds

/-- A manifest that was read is valid, but for halves that symbols given as bytes may have. -/
theorem valid_of_ofDocument (h : ofDocument doc = .ok m)
    (hcharacters : ∀ c ∈ m.checksums, Surrogate.occursIn c.1.toList = false) : m.Valid := by
  obtain ⟨hspace, hversion, -, hchecksums⟩ := ofDocument_eq_ok.mp h
  obtain ⟨_, -, hspace⟩ := Entry.required_eq_ok.mp hspace
  obtain ⟨_, -, hversion⟩ := Entry.required_eq_ok.mp hversion
  have hsums : (m.checksums.map Prod.fst).Nodup ∧ ∀ c ∈ m.checksums, 0 ≤ c.2 ∧ c.2 ≤ greatestChecksum := by
    rcases Entry.optional_eq_ok.mp hchecksums with ⟨-, hnone⟩ | ⟨v, -, hv⟩
    · rw [← hnone]
      exact ⟨List.nodup_nil, nofun⟩
    · exact valid_checksums hv
  refine ⟨?_, Entry.between_of_wholeFrom hversion, hsums.1, hcharacters, hsums.2⟩
  obtain ⟨s, -, hs⟩ := Checked.andThen_eq_ok.mp hspace
  split_ifs at hs with hidentifier
  · cases hs
    exact hidentifier
  · cases hs

/-- The entries of a manifest's document. -/
def members (m : ContractManifest) : List (String × Value) :=
  [("namespace", .text m.space), ("contract_version", .int m.version)]
    ++ (m.versionSymbolOverride.toList.map fun s => ("contract_version_symbol", Value.text s))
    ++ [("checksums", .ofMembers (m.checksums.map fun s => (s.1, .int s.2)))]

theorem document_eq (m : ContractManifest) : m.document = .ofMembers m.members := by
  unfold document members
  cases m.versionSymbolOverride <;> rfl

theorem members_nodup (m : ContractManifest) : (m.members.map Prod.fst).Nodup := by
  unfold members
  cases m.versionSymbolOverride with
  | none =>
    change ["namespace", "contract_version", "checksums"].Nodup
    decide
  | some s =>
    change ["namespace", "contract_version", "contract_version_symbol", "checksums"].Nodup
    decide

theorem checksumsEntry_of_valid (h : m.Valid) :
    checksumsEntry (.ofMembers (m.checksums.map fun s => (s.1, .int s.2))) = .ok m.checksums := by
  have hnone : m.checksums.find? (fun s => s.2 < 0 ∨ greatestChecksum < s.2) = none := by
    rw [List.find?_eq_none]
    intro c hc
    have hbounds := h.checksums c hc
    simpa using hbounds
  apply Checked.andThen_eq_ok.mpr
  refine ⟨m.checksums, Entry.mapping_whole h.symbols h.characters, ?_⟩
  rw [hnone]

/-- A manifest is read from its entries in any order. -/
theorem ofDocument_of_perm (h : m.Valid) {loaded : List (String × Value)} (hp : loaded.Perm m.members) :
    ofDocument (.ofMembers loaded) = .ok m := by
  have hfield : ∀ name, (Value.ofMembers loaded).field? name = Value.lookup name m.members := by
    intro name
    rw [Value.field?_ofMembers, Value.lookup_perm m.members_nodup hp]
  have hmember : ∀ {name : String} {v : Value}, (name, v) ∈ m.members →
      (Value.ofMembers loaded).field? name = some v := by
    intro name v hv
    rw [hfield]
    exact Value.lookup_of_nodup m.members_nodup hv
  apply ofDocument_eq_ok.mpr
  refine ⟨?_, ?_, ?_, ?_⟩
  · apply Entry.required_eq_ok.mpr
    refine ⟨.text m.space, hmember (by simp [members]), Checked.andThen_eq_ok.mpr ⟨m.space, rfl, ?_⟩⟩
    exact if_pos h.space
  · apply Entry.required_eq_ok.mpr
    exact ⟨.int m.version, hmember (by simp [members]), Entry.wholeFrom_int_between h.version.1 h.version.2⟩
  · apply Entry.optional_eq_ok.mpr
    cases hs : m.versionSymbolOverride with
    | none =>
      left
      refine ⟨?_, rfl⟩
      rw [hfield, members, hs]
      rfl
    | some s =>
      right
      exact ⟨.text s, hmember (by simp [members, hs]), rfl⟩
  · apply Entry.optional_eq_ok.mpr
    right
    exact ⟨_, hmember (by simp [members]), checksumsEntry_of_valid h⟩

end ContractManifest

end ForeignBridge
