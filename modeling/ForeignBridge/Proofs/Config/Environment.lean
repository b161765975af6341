import ForeignBridge.Config.Layers
import ForeignBridge.Proofs.Config.Fields

/-!
Variables of the environment over a configuration. Each variable sets one setting, so that the document they make
has at a path what its variable says; where no variable is set a configuration stays as it is.
-/

namespace ForeignBridge

namespace Value

/-- A document that sets one setting has it at the setting's path. -/
theorem at?_atPath {path other : List String} (hp : SettingPath path) (ho : SettingPath other) (v : Value) :
    (RuntimeConfig.atPath other v).at? path = if other = path then some v else none := by
  have hone : ∀ (name wanted : String) (inner : Value),
      (ofMembers [(name, inner)]).field? wanted = if name = wanted then some inner else none := by
    intro name wanted inner
    rw [field?_ofMembers, lookup, lookup]
  cases ho with
  | @outside n hn =>
    cases hp with
    | outside _ => simp [RuntimeConfig.atPath, hone]
    | @within s _ hs =>
      have hne : n ≠ s := by
        rintro rfl
        exact hn hs
      simp [RuntimeConfig.atPath, hone, hne]
  | @within s n hs =>
    cases hp with
    | @outside m hm =>
      have hne : s ≠ m := by
        rintro rfl
        exact hm hs
      simp [RuntimeConfig.atPath, hone, hne]
    | @within t _ _ => by_cases h : s = t <;> simp [RuntimeConfig.atPath, hone, h]

theorem atPath_layer {path : List String} (hp : SettingPath path) {v : Value} (hv : v.Leaf) :
    (RuntimeConfig.atPath path v).Layer := by
  have hone : ∀ {kind : String → Value → Prop} {name : String} {a : Value}, kind name a →
      (ofMembers [(name, a)]).Fits kind := by
    intro kind name a ha
    exact ⟨_, rfl, List.nodup_singleton _, List.forall_mem_singleton.mpr ha⟩
  cases hp with
  | outside hn =>
    refine hone ?_
    rwa [LayerEntry, if_neg hn]
  | within name hs =>
    refine hone ?_
    rw [LayerEntry, if_pos hs]
    exact hone hv

theorem at?_empty {path : List String} (hp : SettingPath path) : (dict []).at? path = none := by
  cases hp <;> rfl

theorem leaf_ofText (s : String) : (ofText s).Leaf := by
  unfold ofText
  split_ifs <;> nofun

end Value

/-! ### The environment -/

namespace RuntimeConfig

variable {start : String} {env : Environment}

/-- What the environment says of the setting at a path: the first variable for it that is set. -/
def variableAt (start : String) (env : Environment) (path : List String)
    (known : List (String × List String × (String → Value))) : Option Value :=
  known.findSome? fun x => if x.2.1 = path then (Value.lookup (start ++ x.1) env).map x.2.2 else none

/-- Lays the setting of a variable over a document, if the variable is set. -/
def withVariable (start : String) (env : Environment) (doc : Value)
    (x : String × List String × (String → Value)) : Value :=
  match Value.lookup (start ++ x.1) env with
  | some s => doc.overlay (atPath x.2.1 (x.2.2 s))
  | none => doc

variable {known : List (String × List String × (String → Value))}

theorem foldl_withVariable_layer (hv : ∀ x ∈ known, Value.SettingPath x.2.1 ∧ ∀ s, (x.2.2 s).Leaf)
    {doc : Value} (hd : doc.Layer) : (known.foldl (withVariable start env) doc).Layer := by
  induction known generalizing doc with
  | nil => exact hd
  | cons x rest ih =>
    obtain ⟨⟨hp, hl⟩, hrest⟩ := List.forall_mem_cons.mp hv
    refine ih hrest ?_
    unfold withVariable
    split
    · exact hd.overlay (Value.atPath_layer hp (hl _))
    · exact hd

/-- Variables that are read one after another lie over one another, the last one uppermost. -/
theorem foldl_withVariable_at? (hv : ∀ x ∈ known, Value.SettingPath x.2.1 ∧ ∀ s, (x.2.2 s).Leaf)
    {path : List String} (hp : Value.SettingPath path) (doc : Value) :
    (known.foldl (withVariable start env) doc).at? path
      = (variableAt start env path known.reverse).or (doc.at? path) := by
  induction known generalizing doc with
  | nil => rfl
  | cons x rest ih =>
    obtain ⟨⟨hx, hl⟩, hrest⟩ := List.forall_mem_cons.mp hv
    have hstep : (withVariable start env doc x).at? path
        = (variableAt start env path [x]).or (doc.at? path) := by
      unfold withVariable variableAt
      rw [List.findSome?_singleton]
      cases Value.lookup (start ++ x.1) env with
      | none => simp
      | some s =>
        simp only [Value.at?_overlay (Value.atPath_layer hx (hl s)) doc hp, Value.at?_atPath hp hx, Option.map_some]
    rw [List.foldl_cons, ih hrest, hstep, ← Option.or_assoc, List.reverse_cons]
    unfold variableAt
    rw [List.findSome?_append]

/-- Where no two variables set the same, it does not matter which one is looked at first. -/
theorem variableAt_reverse (h : (known.map fun x => x.2.1).Nodup) (path : List String) :
    variableAt start env path known.reverse = variableAt start env path known := by
  induction known with
  | nil => rfl
  | cons x rest ih =>
    obtain ⟨hx, hrest⟩ := List.nodup_cons.mp h
    have hcons : variableAt start env path (x :: rest)
        = (variableAt start env path [x]).or (variableAt start env path rest) :=
      @List.findSome?_append _ _ _ [x] rest
    have hreverse : variableAt start env path (x :: rest).reverse
        = (variableAt start env path rest).or (variableAt start env path [x]) := by
      rw [← ih hrest, List.reverse_cons]
      exact List.findSome?_append
    rw [hcons, hreverse]
    by_cases hp : x.2.1 = path
    · have hnone : variableAt start env path rest = none := by
        refine List.findSome?_eq_none_iff.mpr fun y hy => if_neg fun hyp => hx ?_
        exact List.mem_map.mpr ⟨y, hy, hyp.trans hp.symm⟩
      rw [hnone, Option.none_or, Option.or_none]
    · have hnone : variableAt start env path [x] = none := by
        rw [variableAt, List.findSome?_singleton, if_neg hp]
      rw [hnone, Option.none_or, Option.or_none]

theorem knownVariables_set : ∀ x ∈ knownVariables, Value.SettingPath x.2.1 ∧ ∀ s, (x.2.2 s).Leaf := by
  simp only [knownVariables, List.forall_mem_cons, List.not_mem_nil]
  exact ⟨⟨.outside (by decide), Value.leaf_ofText⟩, ⟨.outside (by decide), Value.leaf_ofText⟩,
    ⟨.within _ (by decide), Value.leaf_ofText⟩, ⟨.within _ (by decide), fun _ => nofun⟩,
    ⟨.within _ (by decide), fun _ => nofun⟩, ⟨.within _ (by decide), Value.leaf_ofText⟩,
    ⟨.within _ (by decide), Value.leaf_ofText⟩, ⟨.within _ (by decide), Value.leaf_ofText⟩, nofun⟩

theorem environmentDocument_layer : (environmentDocument start env).Layer :=
  foldl_withVariable_layer knownVariables_set ⟨[], rfl, List.nodup_nil, nofun⟩

/-- What the environment has of settings is what its variables say. -/
theorem environmentDocument_at? {path : List String} (hp : Value.SettingPath path) :
    (environmentDocument start env).at? path = variableAt start env path knownVariables := by
  -- the variables are laid on in their order, so the last one of a path would count
  rw [← variableAt_reverse (by decide)]
  exact (foldl_withVariable_at? knownVariables_set hp _).trans (by rw [Value.at?_empty hp, Option.or_none])

variable {doc : Value} {base set : RuntimeConfig}

/-- What the environment says counts before the document that a configuration was read from. -/
theorem withEnvironment_read {start : String} (hbase : ofDocument doc = .ok base)
    (hset : ofEnvironment start env = .ok set) :
    ∃ c, withEnvironment start env base = .ok c
      ∧ ∀ f : Field,
        f.read ((variableAt start env f.path knownVariables).or (doc.at? f.path)) = .ok (f.setting c) := by
  have hat : ∀ f : Field, (environmentDocument start env).at? f.path = variableAt start env f.path knownVariables :=
    fun f => environmentDocument_at? f.settingPath
  have hdoc : ∀ f : Field, f.read (doc.at? f.path) = .ok (f.setting base) := read_of_ofDocument hbase
  have henv : ∀ f : Field, ∃ s, f.read ((environmentDocument start env).at? f.path) = .ok s :=
    fun f => ⟨_, read_of_ofDocument (ofDocument?_eq_ok.mp hset) f⟩
  unfold withEnvironment
  split
  · rename_i hempty
    refine ⟨base, rfl, fun f => ?_⟩
    have hnone : variableAt start env f.path knownVariables = none := by
      rw [← hat, hempty, Value.at?_empty f.settingPath]
    rw [hnone]
    exact hdoc f
  · have hlisted : ∀ f : Field, base.setDocument.at? f.path = (f.setting base).asSet f.shown :=
      fun f => (base.listed f).2
    have hread : ∀ f : Field, f.read (base.setDocument.at? f.path) = f.read (doc.at? f.path) := by
      intro f
      simpa [hlisted] using Field.read_asSet (hdoc f) none
    obtain ⟨c, hc, hsettings⟩ := ofDocument_overlay base.setDocument_layer environmentDocument_layer
      (fun f => ⟨_, (hread f).trans (hdoc f)⟩) henv
    refine ⟨c, ofDocument?_eq_ok.mpr hc, fun f => ?_⟩
    rw [← hat, ← Field.read_or_congr (hread f)]
    exact hsettings f

end RuntimeConfig

end ForeignBridge
