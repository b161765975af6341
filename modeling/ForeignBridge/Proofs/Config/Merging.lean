import ForeignBridge.Config.Layers
import ForeignBridge.Proofs.Config.Fields

/-!
Configurations merged one after another. Every setting of what comes of it is that of the last configuration that
sets it, in a section that is set, too; where none does, it is that of the first one.
-/

namespace ForeignBridge

/-- The configuration that a setting is taken from: the last of the later ones that sets it, or the first of all. -/
def Field.lastSet (f : Field) (first : RuntimeConfig) (later : List RuntimeConfig) : RuntimeConfig :=
  (later.reverse.find? fun c => (f.setting c).explicit).getD first

theorem Field.lastSet_mem (f : Field) (first : RuntimeConfig) (later : List RuntimeConfig) :
    f.lastSet first later ∈ first :: later := by
  unfold lastSet
  cases h : later.reverse.find? fun c => (f.setting c).explicit with
  | none => exact List.mem_cons_self
  | some c =>
    have hc : c ∈ later.reverse := List.mem_of_find?_eq_some h
    exact List.mem_cons_of_mem _ (List.mem_reverse.mp hc)

namespace RuntimeConfig

/-- The numbers of a configuration are as its check asks; for all its other settings their types see to that. -/
def InRange (c : RuntimeConfig) : Prop :=
  1 ≤ c.logging.value.maxFileSizeMb.value ∧ 1 ≤ c.logging.value.backupCount.value

instance (c : RuntimeConfig) : Decidable c.InRange := inferInstanceAs (Decidable (_ ∧ _))

variable {c : RuntimeConfig}

/-- What a configuration lists of a setting passes the check of the setting. -/
theorem InRange.entry_shown (h : c.InRange) (f : Field) :
    f.entry (f.shown (f.setting c).value) = .ok (f.setting c).value := by
  cases f with
  | space | libraryPath | manifestFile | outputFile => exact Field.optionalText_entry _
  | verifyOnStart | logDispatch | warnOnLeakedHandles | includeThreadInfo => rfl
  | maxFileSizeMb => exact Field.wholeFrom_int h.1
  | backupCount => exact Field.wholeFrom_int h.2
  | level => exact Field.level_entry _
  | format => exact Field.format_entry _

/-- Whatever was read is in range. -/
theorem inRange_of_ofDocument {doc : Value} (h : ofDocument doc = .ok c) : c.InRange := by
  have hbound : ∀ {given : Option Value} {absent : Int} {s : Setting Int},
      Setting.ofGiven absent (Entry.wholeFrom 1 none) given = .ok s → 1 ≤ absent → 1 ≤ s.value := by
    intro given absent s hs ha
    cases given with
    | none =>
      obtain rfl : Setting.byDefault absent = s := Checked.ok.inj hs
      exact ha
    | some v =>
      obtain ⟨i, hi, rfl⟩ := Checked.map_eq_ok.mp hs
      exact Field.le_of_wholeFrom hi
  have hsize := hbound (read_of_ofDocument h .maxFileSizeMb) (by decide)
  have hbackups := hbound (read_of_ofDocument h .backupCount) (by decide)
  exact ⟨hsize, hbackups⟩

/-! ### Layers of settings -/

theorem foldl_overlay_layer {doc : Value} (hd : doc.Layer) (later : List RuntimeConfig) :
    ((later.map setDocument).foldl Value.overlay doc).Layer := by
  induction later generalizing doc with
  | nil => exact hd
  | cons c rest ih =>
    apply ih
    exact hd.overlay c.setDocument_layer

/-- Laid over a document, configurations leave at a path what the last of them has set there. -/
theorem foldl_overlay_at? (doc : Value) (later : List RuntimeConfig) (f : Field) :
    ((later.map setDocument).foldl Value.overlay doc).at? f.path
      = ((later.reverse.find? fun c => (f.setting c).explicit).map fun c => f.shown (f.setting c).value).or
          (doc.at? f.path) := by
  induction later generalizing doc with
  | nil => rfl
  | cons c rest ih =>
    have hstep : (doc.overlay c.setDocument).at? f.path
        = (([c].find? fun c => (f.setting c).explicit).map fun c => f.shown (f.setting c).value).or
            (doc.at? f.path) := by
      rw [Value.at?_overlay c.setDocument_layer doc f.settingPath, (c.listed f).2, Setting.asSet]
      cases he : (f.setting c).explicit <;> simp [he]
    rw [List.map_cons, List.foldl_cons, ih, hstep, ← Option.or_assoc, List.reverse_cons, List.find?_append]
    cases rest.reverse.find? fun c => (f.setting c).explicit <;> rfl

/-- At a path of what is merged stands the setting that was last set. -/
theorem merged_at? (first : RuntimeConfig) (later : List RuntimeConfig) (f : Field) :
    ((later.map setDocument).foldl Value.overlay first.document).at? f.path
      = some (f.shown (f.setting (f.lastSet first later)).value) := by
  rw [foldl_overlay_at?, (first.listed f).1, Field.lastSet]
  cases later.reverse.find? fun c => (f.setting c).explicit <;> rfl

/-- Configurations can be merged, and each setting of the merged one, in a section or outside, is that of the last
configuration after the first which sets it in a section that it sets; if there is none it is that of the first. -/
theorem merge_takes_last (first : RuntimeConfig) (later : List RuntimeConfig)
    (h : ∀ c ∈ first :: later, c.InRange) :
    ∃ c, merge (first :: later) = .ok c
      ∧ ∀ f : Field, f.setting c = .set (f.setting (f.lastSet first later)).value := by
  have hread : ∀ f : Field, f.read (((later.map setDocument).foldl Value.overlay first.document).at? f.path)
      = .ok (.set (f.setting (f.lastSet first later)).value) := by
    intro f
    rw [merged_at?]
    apply Checked.map_eq_ok.mpr
    exact ⟨_, (h _ (f.lastSet_mem first later)).entry_shown f, rfl⟩
  obtain ⟨c, hc⟩ := ofDocument_of_read (foldl_overlay_layer first.document_layer later) fun f => ⟨_, hread f⟩
  refine ⟨c, ofDocument?_eq_ok.mpr hc, ?_⟩
  intro f
  have hf := read_of_ofDocument hc f
  rw [hread f] at hf
  exact (Checked.ok.inj hf).symm

/-- A configuration that logs everything for a wallet. -/
def walletBase : RuntimeConfig :=
  { byDefault with
    space := .set (some "wallet")
    logging := .set { LoggingConfig.byDefault with level := .set .debug, backupCount := .set 9 } }

/-- One that sets the level to what it is by default. -/
def plainLevel : RuntimeConfig :=
  { byDefault with logging := .set { LoggingConfig.byDefault with level := .set .info } }

/-- One that sets a section and nothing in it, and another setting back to nothing. -/
def emptySection : RuntimeConfig := { byDefault with space := .set none, logging := .set .byDefault }

theorem merge_takes_last_wallet :
    (∀ c ∈ [walletBase, plainLevel, emptySection], c.InRange) ∧
      ∃ c, merge [walletBase, plainLevel, emptySection] = .ok c ∧ c.space.value = none
        ∧ c.logging.value.level.value = .info ∧ c.logging.value.backupCount.value = 9
        ∧ c.contract.value.verifyOnStart.value = true := by
  have h : ∀ c ∈ [walletBase, plainLevel, emptySection], c.InRange := by decide
  obtain ⟨c, hc, hf⟩ := merge_takes_last walletBase [plainLevel, emptySection] h
  exact ⟨h, c, hc, congrArg Setting.value (hf .space), congrArg Setting.value (hf .level),
    congrArg Setting.value (hf .backupCount), congrArg Setting.value (hf .verifyOnStart)⟩

end RuntimeConfig

end ForeignBridge
