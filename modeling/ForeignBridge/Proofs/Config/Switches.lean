import ForeignBridge.Proofs.Config.CommandLine
import ForeignBridge.Proofs.Text.Whole

/-!
Switches, the settings that are on or off and have a variable in the environment. A document takes some words for
on and some for off and refuses all others; the environment takes fewer words for on and all others for off. So the
two say the same of a switch only where its word is one of those that both know.
-/

namespace ForeignBridge

inductive Switch
  | verifyOnStart
  | logDispatch
deriving DecidableEq, Repr

namespace Switch

def path : Switch → List String
  | verifyOnStart => Field.verifyOnStart.path
  | logDispatch => Field.logDispatch.path

/-- The name of a switch's variable after the common beginning. -/
def variableName : Switch → String
  | verifyOnStart => "VERIFY_ON_START"
  | logDispatch => "LOG_DISPATCH"

/-- The configuration that sets a switch and nothing else. -/
def config : Switch → Bool → RuntimeConfig
  | verifyOnStart, b =>
    { RuntimeConfig.byDefault with
      contract := .set { ContractConfig.byDefault with verifyOnStart := .set b } }
  | logDispatch, b =>
    { RuntimeConfig.byDefault with
      callbacks := .set { CallbackConfig.byDefault with logDispatch := .set b } }

/-- The words that switch something on in the environment. -/
def affirmingWords : List String := ["1", "true", "yes", "on"]

/-- The words that the environment and documents read alike. -/
def sharedWords : List String := affirmingWords ++ Entry.falseWords

theorem affirms_iff {text : String} : RuntimeConfig.affirms text ↔ text.toLower ∈ affirmingWords :=
  List.contains_iff_mem

theorem config_injective (x : Switch) {a b : Bool} (h : x.config a = x.config b) : a = b := by
  cases x <;> cases h <;> rfl

end Switch

/-! ### Words -/

namespace Entry

theorem toNat_lt_of_toLower {c : Char} (h : c.toLower.toNat < 128) : c.toNat < 128 := by
  unfold Char.toLower at h
  split_ifs at h with hc
  · have hz : c.val.toNat ≤ 90 := hc.2
    change c.val.toNat < 128
    omega
  · exact h

/-- No word for on or off has a half in it, in whatever case it is written. -/
theorem whole_of_word {s : String} (h : s.toLower ∈ trueWords ++ falseWords) : Surrogate.Whole s := by
  have hplain : (trueWords ++ falseWords).all (fun word => word.toList.all fun c => c.toNat < 128) := by decide
  have hword := List.all_eq_true.mp hplain _ h
  intro c hc
  have hl : c.toLower ∈ s.toLower.toList := by
    change c.toLower ∈ (s.map Char.toLower).toList
    rw [String.toList_map]
    exact List.mem_map_of_mem hc
  have hlow : c.toNat < 128 := toNat_lt_of_toLower (of_decide_eq_true (List.all_eq_true.mp hword _ hl))
  exact Surrogate.isWhole_of_lt (by omega)

theorem ofText_of_whole {s : String} (h : Surrogate.Whole s) : Value.ofText s = .text s := by
  have hn : Surrogate.occursIn s.toList = false := List.any_eq_false.mpr fun c hc => by
    simpa [Surrogate.IsWhole] using h c hc
  rw [Value.ofText, hn]
  rfl

theorem truth_on {s : String} (h : s.toLower ∈ trueWords) : truth (.ofText s) = .ok true := by
  have hc : trueWords.contains s.toLower = true := List.elem_eq_true_of_mem h
  rw [ofText_of_whole (whole_of_word (List.mem_append_left _ h))]
  change truthOfWord s = _
  rw [truthOfWord, if_pos hc]

theorem truth_off {s : String} (h : s.toLower ∈ falseWords) : truth (.ofText s) = .ok false := by
  have hdisjoint : ∀ word ∈ falseWords, trueWords.contains word = false := by decide
  have hc : falseWords.contains s.toLower = true := List.elem_eq_true_of_mem h
  rw [ofText_of_whole (whole_of_word (List.mem_append_right _ h))]
  change truthOfWord s = _
  rw [truthOfWord, hdisjoint _ h, if_neg Bool.false_ne_true, if_pos hc]

/-- Any other text is refused. -/
theorem truth_refused {s : String} (h : s.toLower ∉ trueWords ++ falseWords) : ∃ why, truth (.ofText s) = .refuse why := by
  obtain ⟨ht, hf⟩ := not_or.mp (mt List.mem_append.mpr h)
  unfold Value.ofText
  split_ifs
  · exact ⟨.notCharacters, rfl⟩
  · refine ⟨.unreadableTruth, ?_⟩
    change truthOfWord s = _
    rw [truthOfWord, if_neg (by simpa using ht), if_neg (by simpa using hf)]

end Entry

/-! ### Documents and environments of one setting -/

namespace RuntimeConfig

variable {start : String} {env : Environment} {files : Files} {path : Option String}

/-- No variable that sets something is set. -/
def Unset (start : String) (env : Environment) : Prop :=
  ∀ x ∈ knownVariables, Value.lookup (start ++ x.1) env = none

/-- Of the variables that set something one has a text, and the others are not set. -/
def SetsOnly (start : String) (env : Environment) (name text : String) : Prop :=
  ∀ x ∈ knownVariables, Value.lookup (start ++ x.1) env = if x.1 = name then some text else none

instance (start : String) (env : Environment) : Decidable (Unset start env) := List.decidableBAll _ _

instance (start : String) (env : Environment) (name text : String) : Decidable (SetsOnly start env name text) :=
  List.decidableBAll _ _

theorem foldl_withVariable_unset {known : List (String × List String × (String → Value))}
    (h : ∀ x ∈ known, Value.lookup (start ++ x.1) env = none) (doc : Value) :
    known.foldl (withVariable start env) doc = doc := by
  induction known with
  | nil => rfl
  | cons x rest ih =>
    obtain ⟨hx, hrest⟩ := List.forall_mem_cons.mp h
    rw [List.foldl_cons, withVariable, hx]
    exact ih hrest

theorem foldl_withVariable_only {known : List (String × List String × (String → Value))} {name text : String}
    (hn : (known.map Prod.fst).Nodup) {x : String × List String × (String → Value)} (hx : x ∈ known)
    (hname : x.1 = name)
    (h : ∀ y ∈ known, Value.lookup (start ++ y.1) env = if y.1 = name then some text else none) (doc : Value) :
    known.foldl (withVariable start env) doc = doc.overlay (atPath x.2.1 (x.2.2 text)) := by
  induction known with
  | nil => cases hx
  | cons y rest ih =>
    obtain ⟨hnew, hrest⟩ := List.nodup_cons.mp hn
    obtain ⟨hy, hall⟩ := List.forall_mem_cons.mp h
    rw [List.foldl_cons, withVariable, hy]
    rcases List.mem_cons.mp hx with rfl | hx
    · rw [if_pos hname]
      apply foldl_withVariable_unset
      intro z hz
      rw [hall z hz, if_neg]
      rintro hzn
      exact hnew (List.mem_map.mpr ⟨z, hz, hzn.trans hname.symm⟩)
    · rw [if_neg]
      · exact ih hrest hx hall
      · intro hyn
        exact hnew (List.mem_map.mpr ⟨x, hx, hname.trans hyn.symm⟩)

theorem environmentDocument_unset (h : Unset start env) : environmentDocument start env = .dict [] :=
  foldl_withVariable_unset h _

/-- The environment that sets a switch and nothing else, as a document. -/
theorem environmentDocument_switch (x : Switch) {text : String} (h : SetsOnly start env x.variableName text) :
    environmentDocument start env = atPath x.path (.bool (affirms text)) := by
  have hn : (knownVariables.map Prod.fst).Nodup := by decide
  have hx : (x.variableName, x.path, fun s => Value.bool (affirms s)) ∈ knownVariables := by
    cases x <;> simp [knownVariables, Switch.variableName, Switch.path, Field.path]
  refine (foldl_withVariable_only hn hx rfl h (.dict [])).trans ?_
  cases x <;> rfl

/-- A document with a switch and nothing else is read as the switch is; what is wrong with it is found at its path. -/
theorem ofDocument_switch (x : Switch) (v : Value) :
    ofDocument (atPath x.path v) = (x.path.foldr Checked.under (Entry.truth v)).map x.config := by
  cases x with
  | verifyOnStart =>
    have hsection : ContractConfig.ofDocument (.ofMembers [("verify_on_start", v)])
        = ((Entry.truth v).under "verify_on_start").map fun b =>
            { ContractConfig.byDefault with verifyOnStart := .set b } := by
      change ContractConfig.mk <$> .ok (.byDefault none) <*> ((Entry.truth v).under "verify_on_start").map .set = _
      cases Entry.truth v <;> rfl
    change RuntimeConfig.mk <$> .ok (.byDefault none) <*> .ok (.byDefault none)
      <*> ((ContractConfig.ofDocument (.ofMembers [("verify_on_start", v)])).under "contract").map .set
      <*> .ok (.byDefault .byDefault) <*> .ok (.byDefault .byDefault) = _
    rw [hsection]
    cases Entry.truth v <;> rfl
  | logDispatch =>
    have hsection : CallbackConfig.ofDocument (.ofMembers [("log_dispatch", v)])
        = ((Entry.truth v).under "log_dispatch").map fun b =>
            { CallbackConfig.byDefault with logDispatch := .set b } := by
      change CallbackConfig.mk <$> ((Entry.truth v).under "log_dispatch").map .set <*> .ok (.byDefault true) = _
      cases Entry.truth v <;> rfl
    change RuntimeConfig.mk <$> .ok (.byDefault none) <*> .ok (.byDefault none) <*> .ok (.byDefault .byDefault)
      <*> ((CallbackConfig.ofDocument (.ofMembers [("log_dispatch", v)])).under "callbacks").map .set
      <*> .ok (.byDefault .byDefault) = _
    rw [hsection]
    cases Entry.truth v <;> rfl

theorem ofDocument?_switch {x : Switch} {v : Value} {b : Bool} (h : Entry.truth v = .ok b) :
    ofDocument? (atPath x.path v) = .ok (x.config b) := by
  apply ofDocument?_eq_ok.mpr
  rw [ofDocument_switch, h]
  cases x <;> rfl

/-- A switch that is refused is named by its path. -/
theorem ofDocument?_switch_refused {x : Switch} {v : Value} {why : Refusal} (h : Entry.truth v = .refuse why) :
    ofDocument? (atPath x.path v) = .error (.invalidDocument "RuntimeConfig" [⟨x.path, why⟩]) := by
  unfold ofDocument?
  rw [ofDocument_switch, h]
  cases x <;> rfl

theorem withEnvironment_unset (h : Unset start env) (c : RuntimeConfig) : withEnvironment start env c = .ok c := by
  unfold withEnvironment
  rw [environmentDocument_unset h]

theorem withEnvironment_switch {x : Switch} {text : String} (h : SetsOnly start env x.variableName text) :
    withEnvironment start env byDefault = .ok (x.config (affirms text)) := by
  have hdoc : withEnvironment start env byDefault = ofDocument? (atPath x.path (.bool (affirms text))) := by
    unfold withEnvironment
    rw [environmentDocument_switch x h]
    cases x <;> rfl
  rw [hdoc]
  exact ofDocument?_switch rfl

/-! ### A switch in the environment and in a document -/

variable {env' : Environment} {x : Switch} {text : String}

theorem load_variable (files : Files) (henv : SetsOnly start env x.variableName text) :
    load files env none start true = .ok (x.config (affirms text)) := by
  have hnone : files.configuration none = .ok (.dict []) := rfl
  rw [load_eq hnone]
  exact withEnvironment_switch henv

theorem load_document {doc : Value} (hunset : Unset start env) (hdoc : files.configuration path = .ok doc) :
    load files env path start true = ofDocument? doc := by
  rw [load_eq hdoc]
  cases ofDocument? doc with
  | ok c => exact withEnvironment_unset hunset c
  | error e => rfl

/-- A text for a switch, in its variable without a file or in a document without variables. In the environment it is
always taken, for off unless it is one of the affirming words; in a document it is taken if it is a word for on or
off, and refused at the path of the switch if not. So what is loaded is the same exactly for the words that both
read alike. -/
theorem load_switch (files' : Files) (henv : SetsOnly start env x.variableName text) (hunset : Unset start env')
    (hdoc : files.configuration path = .ok (atPath x.path (.ofText text))) :
    load files' env none start true = .ok (x.config (affirms text))
      ∧ (text.toLower ∈ Entry.trueWords → load files env' path start true = .ok (x.config true))
      ∧ (text.toLower ∈ Entry.falseWords → load files env' path start true = .ok (x.config false))
      ∧ (text.toLower ∉ Entry.trueWords ++ Entry.falseWords → ∃ why,
          load files env' path start true = .error (.invalidDocument "RuntimeConfig" [⟨x.path, why⟩]))
      ∧ (load files' env none start true = load files env' path start true ↔ text.toLower ∈ Switch.sharedWords) := by
  have hvariable := load_variable files' henv
  have hread := load_document hunset hdoc
  have hon : text.toLower ∈ Entry.trueWords → load files env' path start true = .ok (x.config true) := by
    intro h
    rw [hread]
    exact ofDocument?_switch (Entry.truth_on h)
  have hoff : text.toLower ∈ Entry.falseWords → load files env' path start true = .ok (x.config false) := by
    intro h
    rw [hread]
    exact ofDocument?_switch (Entry.truth_off h)
  have hrefused : text.toLower ∉ Entry.trueWords ++ Entry.falseWords → ∃ why,
      load files env' path start true = .error (.invalidDocument "RuntimeConfig" [⟨x.path, why⟩]) := by
    intro h
    obtain ⟨why, hwhy⟩ := Entry.truth_refused h
    refine ⟨why, ?_⟩
    rw [hread]
    exact ofDocument?_switch_refused hwhy
  refine ⟨hvariable, hon, hoff, hrefused, ?_⟩
  rw [hvariable]
  constructor
  · intro hsame
    by_contra hshared
    obtain ⟨ha, hf⟩ := not_or.mp (mt List.mem_append.mpr hshared)
    have haffirms : affirms text = false := Bool.eq_false_iff.mpr (mt Switch.affirms_iff.mp ha)
    rw [haffirms] at hsame
    by_cases ht : text.toLower ∈ Entry.trueWords
    · rw [hon ht] at hsame
      cases x.config_injective (Except.ok.inj hsame)
    · obtain ⟨why, hwhy⟩ := hrefused fun h => (List.mem_append.mp h).elim ht hf
      rw [hwhy] at hsame
      cases hsame
  · intro hshared
    rcases List.mem_append.mp hshared with ha | hf
    · have haffirming : ∀ word ∈ Switch.affirmingWords, word ∈ Entry.trueWords := by decide
      rw [hon (haffirming _ ha), Switch.affirms_iff.mpr ha]
    · have hdisjoint : ∀ word ∈ Entry.falseWords, word ∉ Switch.affirmingWords := by decide
      have haffirms : affirms text = false := Bool.eq_false_iff.mpr (mt Switch.affirms_iff.mp (hdisjoint _ hf))
      rw [hoff hf, haffirms]

/-- A file that says whether the contract is verified, with a word. -/
def chimeFiles (word : String) : Files :=
  .ofTexts [("chime.json", "\x7b\"contract\": \x7b\"verify_on_start\": \"" ++ word ++ "\"\x7d\x7d")]

/-- The word of a document that says whether the contract is verified and nothing else. -/
def chimeWord? : Except Failure Value → Option String
  | .ok (.dict [(.text "contract", .dict [(.text "verify_on_start", .text word)])]) => some word
  | _ => none

theorem eq_of_chimeWord? {read : Except Failure Value} {word : String} (h : chimeWord? read = some word) :
    read = .ok (atPath Switch.verifyOnStart.path (.text word)) := by
  unfold chimeWord? at h
  split at h
  · cases h
    rfl
  · cases h

theorem load_switch_off :
    SetsOnly variableStart [("FIREFLYFFI_VERIFY_ON_START", "Off")] Switch.verifyOnStart.variableName "Off"
      ∧ Unset variableStart []
      ∧ (chimeFiles "Off").configuration (some "chime.json") = .ok (atPath Switch.verifyOnStart.path (.ofText "Off"))
      ∧ load (.ofTexts []) [("FIREFLYFFI_VERIFY_ON_START", "Off")] none variableStart true
          = load (chimeFiles "Off") [] (some "chime.json") variableStart true := by
  have henv : SetsOnly variableStart [("FIREFLYFFI_VERIFY_ON_START", "Off")] Switch.verifyOnStart.variableName "Off" := by
    decide +kernel
  have hunset : Unset variableStart [] := fun _ _ => rfl
  have hdoc : (chimeFiles "Off").configuration (some "chime.json")
      = .ok (atPath Switch.verifyOnStart.path (.ofText "Off")) := eq_of_chimeWord? (by decide +kernel)
  exact ⟨henv, hunset, hdoc, (load_switch _ henv hunset hdoc).2.2.2.2.mpr (by decide +kernel)⟩

/-- In the environment a slip in writing, and a short word for on, switch the verification off. In a document the one
is refused, and the other switches it on. -/
theorem misspelt_switches_off :
    load (.ofTexts []) [("FIREFLYFFI_VERIFY_ON_START", "ture")] none variableStart true
        = .ok (Switch.verifyOnStart.config false)
      ∧ load (chimeFiles "ture") [] (some "chime.json") variableStart true
        = .error (.invalidDocument "RuntimeConfig" [⟨["contract", "verify_on_start"], .unreadableTruth⟩])
      ∧ load (.ofTexts []) [("FIREFLYFFI_VERIFY_ON_START", "y")] none variableStart true
        = .ok (Switch.verifyOnStart.config false)
      ∧ load (chimeFiles "y") [] (some "chime.json") variableStart true = .ok (Switch.verifyOnStart.config true) := by
  have hunset : Unset variableStart [] := fun _ _ => rfl
  have hdoc : ∀ word ∈ ["ture", "y"], (chimeFiles word).configuration (some "chime.json")
      = .ok (atPath Switch.verifyOnStart.path (.text word)) := by
    have hwords : ∀ word ∈ ["ture", "y"],
        chimeWord? ((chimeFiles word).configuration (some "chime.json")) = some word := by decide +kernel
    intro word h
    exact eq_of_chimeWord? (hwords word h)
  have henv : ∀ word ∈ ["ture", "y"], load (.ofTexts []) [("FIREFLYFFI_VERIFY_ON_START", word)] none variableStart true
      = .ok (Switch.verifyOnStart.config false) := by
    have honly : ∀ word ∈ ["ture", "y"], SetsOnly variableStart [("FIREFLYFFI_VERIFY_ON_START", word)]
        Switch.verifyOnStart.variableName word := by decide +kernel
    have haffirms : ∀ word ∈ ["ture", "y"], affirms word = false := by decide +kernel
    intro word h
    rw [load_variable _ (honly word h), haffirms word h]
  refine ⟨henv _ (by simp), ?_, henv _ (by simp), ?_⟩
  · rw [load_document hunset (hdoc _ (by simp))]
    apply ofDocument?_switch_refused
    decide +kernel
  · rw [load_document hunset (hdoc _ (by simp))]
    apply ofDocument?_switch
    decide +kernel

end RuntimeConfig

end ForeignBridge
