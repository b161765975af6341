import ForeignBridge.Config.Storage
import ForeignBridge.Proofs.Config.Merging
import ForeignBridge.Proofs.Contract.Manifest
import ForeignBridge.Proofs.Document.Nulls
import ForeignBridge.Proofs.Document.Settings

/-!
Saved configurations and manifests. Where a format gives documents back, a file gives back the settings of the
configuration, or the manifest, that was saved in it; what TOML leaves out is read as it is by default.
-/

namespace ForeignBridge

/-! ### Entries in another order -/

namespace Value

variable {kind : String → Value → Prop} {members loaded : List (String × Value)}

theorem ofMembers_injective : Function.Injective ofMembers := by
  have hentry : Function.Injective fun e : String × Value => (text e.1, e.2) := by
    rintro ⟨name, v⟩ ⟨other, w⟩ hpair
    cases hpair
    rfl
  intro members others h
  exact List.map_injective_iff.mpr hentry (Value.dict.inj h)

theorem Fits.perm (h : (ofMembers members).Fits kind) (hp : loaded.Perm members) : (ofMembers loaded).Fits kind := by
  obtain ⟨others, heq, hnodup, hkind⟩ := h
  obtain rfl := ofMembers_injective heq
  refine ⟨loaded, rfl, (hp.map Prod.fst).nodup_iff.mpr hnodup, ?_⟩
  intro e he
  exact hkind e (hp.mem_iff.mp he)

theorem Fits.at?_perm (h : (ofMembers members).Fits kind) (hp : loaded.Perm members) {path : List String}
    (hpath : SettingPath path) : (ofMembers loaded).at? path = (ofMembers members).at? path := by
  obtain ⟨others, heq, hnodup, -⟩ := h
  obtain rfl := ofMembers_injective heq
  have hfield : ∀ name, (ofMembers loaded).field? name = (ofMembers members).field? name := by
    intro name
    rw [field?_ofMembers, field?_ofMembers, lookup_perm hnodup hp]
  cases hpath with
  | outside _ => rw [at?_singleton, at?_singleton, hfield]
  | within _ _ => rw [at?_pair, at?_pair, hfield]

end Value

/-! ### Configurations -/

namespace Field

theorem absent_of_null {f : Field} {a : f.Kind} (h : (f.shown a).isNull = true) : a = f.absent := by
  cases f with
  | space | libraryPath | manifestFile | outputFile =>
    cases a with
    | none => rfl
    | some s => cases h
  | _ => cases h

/-- A setting is read from where it is listed, and as it is by default from where it is left out. -/
theorem read_listed {f : Field} {a : f.Kind} {given : Option Value} (ha : f.entry (f.shown a) = .ok a)
    (h : given = some (f.shown a) ∨ given = (some (f.shown a)).filter fun v => !v.isNull) :
    ∃ s, f.read given = .ok s ∧ s.value = a := by
  have hlisted : f.read (some (f.shown a)) = .ok (.set a) := Checked.map_eq_ok.mpr ⟨a, ha, rfl⟩
  rcases h with rfl | rfl
  · exact ⟨.set a, hlisted, rfl⟩
  · cases hnull : (f.shown a).isNull with
    | true =>
      rw [Option.filter_some, hnull]
      exact ⟨.byDefault f.absent, rfl, (absent_of_null hnull).symm⟩
    | false =>
      rw [Option.filter_some, hnull]
      exact ⟨.set a, hlisted, rfl⟩

end Field

namespace RuntimeConfig

variable {c : RuntimeConfig} {path : String}

/-- The document that a configuration is saved as. -/
def savedDocument (c : RuntimeConfig) : DocumentFormat → Value
  | .toml => c.document.withoutNulls
  | .json | .yaml => c.document

theorem depth_withoutNulls (c : RuntimeConfig) : c.document.withoutNulls.depth = c.document.depth := by
  obtain ⟨⟨space, _⟩, ⟨library, _⟩, ⟨⟨⟨manifest, _⟩, _⟩, _⟩, _, ⟨⟨_, _, ⟨output, _⟩, _, _, _⟩, _⟩⟩ := c
  cases space <;> cases library <;> cases manifest <;> cases output <;> rfl

theorem print_savedDocument (c : RuntimeConfig) (f : DocumentFormat) :
    f.print (c.savedDocument f) = f.print c.document := by
  cases f with
  | toml =>
    unfold DocumentFormat.print savedDocument
    dsimp only
    rw [Toml.print?_withoutNulls c.depth_withoutNulls]
  | json | yaml => rfl

theorem savedDocument_layer (c : RuntimeConfig) (f : DocumentFormat) : (c.savedDocument f).Layer := by
  cases f with
  | toml => exact c.document_layer.withoutNulls
  | json | yaml => exact c.document_layer

theorem savedDocument_at? (c : RuntimeConfig) (format : DocumentFormat) (f : Field) :
    (c.savedDocument format).at? f.path = some (f.shown (f.setting c).value) ∨
      (c.savedDocument format).at? f.path = (some (f.shown (f.setting c).value)).filter fun v => !v.isNull := by
  have hlisted := (c.listed f).1
  cases format with
  | toml =>
    right
    rw [savedDocument, c.document_layer.at?_withoutNulls f.settingPath, hlisted]
  | json | yaml => exact .inl hlisted

/-- A configuration that is saved in a file is read from it with the same settings. -/
theorem ofFile_of_saved (hc : c.InRange)
    (h : (DocumentFormat.ofPath path).LoadsBack (c.savedDocument (DocumentFormat.ofPath path))) :
    ∃ text, c.fileText "auto" path = .ok text ∧ ∀ (files : Files) files', files.save path text = .ok files' →
      ∃ c', ofFile files' path = .ok c' ∧ ∀ f : Field, (f.setting c').value = (f.setting c).value := by
  obtain ⟨text, members, loaded, hdocument, hprint, hread, hperm⟩ := h
  have htext : c.fileText "auto" path = .ok text := by
    rw [← hprint, c.print_savedDocument]
    rfl
  refine ⟨text, htext, ?_⟩
  intro files files' hsave
  have hfits := c.savedDocument_layer (DocumentFormat.ofPath path)
  rw [hdocument] at hfits
  have hat : ∀ f : Field, ∃ s, f.read ((Value.ofMembers loaded).at? f.path) = .ok s ∧ s.value = (f.setting c).value := by
    intro f
    rw [hfits.at?_perm hperm f.settingPath, ← hdocument]
    exact Field.read_listed (hc.entry_shown f) (c.savedDocument_at? _ f)
  obtain ⟨c', hc'⟩ := ofDocument_of_read (hfits.perm hperm) fun f => (hat f).imp fun s hs => hs.1
  refine ⟨c', ?_, ?_⟩
  · unfold ofFile
    rw [Files.settings_save hsave hread]
    exact ofDocument?_eq_ok.mpr hc'
  · intro f
    obtain ⟨s, hs, hvalue⟩ := hat f
    have hsetting := read_of_ofDocument hc' f
    rw [hs] at hsetting
    rw [← Checked.ok.inj hsetting, hvalue]

end RuntimeConfig

/-! ### Manifests -/

namespace ContractManifest

variable {m : ContractManifest} {path : String}

/-- A manifest that is saved in a file is read from it as it was. -/
theorem ofFile_of_saved (hm : m.Valid) (h : (DocumentFormat.ofPath path).LoadsBack m.document) :
    ∃ text, m.fileText path = .ok text ∧ ∀ (files : Files) files', files.save path text = .ok files' →
      ofFile files' path = .ok m := by
  obtain ⟨text, members, loaded, hdocument, hprint, hread, hperm⟩ := h
  refine ⟨text, hprint, ?_⟩
  intro files files' hsave
  rw [m.document_eq] at hdocument
  obtain rfl := Value.ofMembers_injective hdocument
  unfold ofFile
  rw [Files.settings_save hsave hread]
  change ofDocument? (.ofMembers loaded) = .ok m
  rw [ofDocument?, ofDocument_of_perm hm hperm]

end ContractManifest

/-- Saved configurations load back with the same settings, and saved manifests as they were, from every file whose
format gives their documents back. -/
theorem saved_load_back :
    (∀ (c : RuntimeConfig) (path : String), c.InRange →
      (DocumentFormat.ofPath path).LoadsBack (c.savedDocument (DocumentFormat.ofPath path)) →
      ∃ text, c.fileText "auto" path = .ok text ∧ ∀ (files : Files) files', files.save path text = .ok files' →
        ∃ c', RuntimeConfig.ofFile files' path = .ok c' ∧ ∀ f : Field, (f.setting c').value = (f.setting c).value) ∧
    ∀ (m : ContractManifest) (path : String), m.Valid → (DocumentFormat.ofPath path).LoadsBack m.document →
      ∃ text, m.fileText path = .ok text ∧ ∀ (files : Files) files', files.save path text = .ok files' →
        ContractManifest.ofFile files' path = .ok m := by
  constructor
  · intro c path hc h
    exact RuntimeConfig.ofFile_of_saved hc h
  · intro m path hm h
    exact ContractManifest.ofFile_of_saved hm h

def mooredConfig : RuntimeConfig := { RuntimeConfig.byDefault with space := .set (some "quay") }

def buoyManifest : ContractManifest := ⟨"buoy", 3, none, [("buoy_ring", 7), ("buoy_drift", 65535)]⟩

theorem saved_load_back_moored :
    (∃ text files' c', mooredConfig.fileText "auto" "moored.toml" = .ok text
        ∧ (Files.ofTexts []).save "moored.toml" text = .ok files' ∧ RuntimeConfig.ofFile files' "moored.toml" = .ok c'
        ∧ c'.space.value = some "quay") ∧
      ∃ text files', buoyManifest.fileText "buoy.yaml" = .ok text
        ∧ (Files.ofTexts []).save "buoy.yaml" text = .ok files'
        ∧ ContractManifest.ofFile files' "buoy.yaml" = .ok buoyManifest := by
  have hsaved : ∀ (path text : String), ((Files.ofTexts []).openAt path).isOk = true →
      ∃ files', (Files.ofTexts []).save path text = .ok files' := by
    intro path text h
    unfold Files.save
    cases ho : (Files.ofTexts []).openAt path with
    | error e =>
      rw [ho] at h
      cases h
    | ok opened => exact ⟨_, rfl⟩
  have htoml : DocumentFormat.ofPath "moored.toml" = .toml := by decide +kernel
  have hyaml : DocumentFormat.ofPath "buoy.yaml" = .yaml := by decide +kernel
  have hconfig : DocumentFormat.toml.LoadsBack (mooredConfig.savedDocument .toml) :=
    .of_readsBack (Value.withoutNulls_ofMembers _) (by decide +kernel)
  have hmanifest : DocumentFormat.yaml.LoadsBack buoyManifest.document :=
    .of_readsBack buoyManifest.document_eq (by decide +kernel)
  constructor
  · obtain ⟨text, htext, hload⟩ := saved_load_back.1 mooredConfig "moored.toml" (by decide) (htoml ▸ hconfig)
    obtain ⟨files', hsave⟩ := hsaved "moored.toml" text (by decide +kernel)
    obtain ⟨c', hc', hsettings⟩ := hload _ _ hsave
    exact ⟨text, files', c', htext, hsave, hc', hsettings .space⟩
  · obtain ⟨text, htext, hload⟩ := saved_load_back.2 buoyManifest "buoy.yaml" (by decide +kernel) (hyaml ▸ hmanifest)
    obtain ⟨files', hsave⟩ := hsaved "buoy.yaml" text (by decide +kernel)
    exact ⟨text, files', htext, hsave, hload _ _ hsave⟩

end ForeignBridge
