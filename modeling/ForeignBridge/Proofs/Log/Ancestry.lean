import Mathlib.Data.List.Find
import ForeignBridge.Log.Tree
import ForeignBridge.Proofs.Value.Lookup

/-!
The loggers above a logger. A name lies under another in a tree if steps to the nearest known name lead there; for
names in which no point follows another, that is so just if the one starts with the other up to a point. A record
passes the loggers without settings of their own and stops at the first one that passes nothing on.
-/

namespace ForeignBridge

namespace LogTree

variable {t : LogTree} {name above next base : String}

/-! ### Names above a name -/

theorem split_of_mem_go {cs : List Char} (h : above ∈ namesAbove.go cs) :
    above ≠ "" ∧ ∃ rest, cs = rest ++ '.' :: above.toList.reverse := by
  induction cs using namesAbove.go.induct with
  | case1 c rest ih =>
    rw [namesAbove.go, List.mem_cons] at h
    rcases h with rfl | h
    · refine ⟨fun hempty => ?_, [], by simp⟩
      have hlength := congrArg String.toList hempty
      simp at hlength
    · obtain ⟨hne, front, rfl⟩ := ih h
      exact ⟨hne, '.' :: c :: front, rfl⟩
  | case2 c rest hc ih =>
    rw [namesAbove.go] at h
    · obtain ⟨hne, front, rfl⟩ := ih h
      exact ⟨hne, c :: front, rfl⟩
    · exact hc
  | case3 =>
    rw [namesAbove.go] at h
    cases h

/-- A name above another is what stands before one of its points. -/
theorem split_of_mem (h : above ∈ namesAbove name) : above ≠ "" ∧ ∃ rest, name = above ++ "." ++ rest := by
  obtain ⟨hne, rest, hrest⟩ := split_of_mem_go h
  refine ⟨hne, String.ofList rest.reverse, String.toList_inj.mp ?_⟩
  rw [List.reverse_eq_iff] at hrest
  simp [hrest]

theorem length_lt_of_mem (h : above ∈ namesAbove name) : above.length < name.length := by
  obtain ⟨-, rest, rfl⟩ := split_of_mem h
  simp only [String.length_append]
  have hpoint : ".".length = 1 := rfl
  omega

theorem length_pos_of_mem (h : above ∈ namesAbove name) : 0 < above.length := by
  rw [Nat.pos_iff_ne_zero]
  simpa using (split_of_mem h).1

theorem nearest_first_go (cs : List Char) : (namesAbove.go cs).Pairwise fun a b => b.length < a.length := by
  induction cs using namesAbove.go.induct with
  | case1 c rest ih =>
    rw [namesAbove.go]
    refine .cons (fun b hb => ?_) ih
    obtain ⟨-, front, rfl⟩ := split_of_mem_go hb
    rw [← String.length_toList, ← String.length_toList, String.toList_ofList]
    simp only [List.length_reverse, List.length_cons, List.length_append]
    omega
  | case2 c rest hc ih =>
    rw [namesAbove.go]
    · exact ih
    · exact hc
  | case3 => exact .nil

theorem mem_go_of_split (hne : above ≠ "") (rest : List Char) (h : rest.getLast? ≠ some '.') :
    above ∈ namesAbove.go (rest ++ '.' :: above.toList.reverse) := by
  induction rest using namesAbove.go.induct with
  | case1 c rest ih =>
    rw [List.cons_append, List.cons_append, namesAbove.go]
    apply List.mem_cons_of_mem
    cases rest with
    | nil => exact ih nofun
    | cons d rest => exact ih (by simpa using h)
  | case2 c rest hc ih =>
    have hpoint : c ≠ '.' := by
      rintro rfl
      cases rest with
      | nil => exact h rfl
      | cons d rest => exact hc d rest rfl rfl
    rw [List.cons_append, namesAbove.go]
    · cases rest with
      | nil => exact ih nofun
      | cons d rest => exact ih (by simpa using h)
    · exact fun d rest heq => absurd heq hpoint
  | case3 =>
    obtain ⟨c, cs, hcs⟩ : ∃ c cs, above.toList.reverse = c :: cs :=
      List.exists_cons_of_ne_nil (by simpa using hne)
    rw [List.nil_append, hcs, namesAbove.go, ← hcs, List.reverse_reverse, String.ofList_toList]
    exact List.mem_cons_self

/-- What stands before a point that no other point follows is a name above. -/
theorem mem_of_split (hne : above ≠ "") (rest : String) (h : rest.toList.head? ≠ some '.') :
    above ∈ namesAbove (above ++ "." ++ rest) := by
  have hgo := mem_go_of_split hne rest.toList.reverse (by simpa using h)
  unfold namesAbove
  simpa using hgo

/-- Of two names before a point of the same name, the longer one goes on behind a point of its own. -/
theorem split_of_longer {rest behind : String} (h : above ++ "." ++ rest = next ++ "." ++ behind)
    (hlonger : above.length < next.length) :
    ∃ middle, next = above ++ "." ++ middle ∧ rest = middle ++ "." ++ behind := by
  have hlist : above.toList ++ '.' :: rest.toList = next.toList ++ '.' :: behind.toList := by
    simpa using congrArg String.toList h
  simp only [← String.length_toList] at hlonger
  rcases List.append_eq_append_iff.mp hlist with ⟨between, hnext, hbetween⟩ | ⟨between, habove, -⟩
  · cases between with
    | nil =>
      rw [hnext, List.append_nil] at hlonger
      exact absurd hlonger (Nat.lt_irrefl _)
    | cons c middle =>
      rw [List.cons_append, List.cons.injEq] at hbetween
      obtain ⟨rfl, hrest⟩ := hbetween
      refine ⟨String.ofList middle, String.toList_inj.mp ?_, String.toList_inj.mp ?_⟩
      · simpa using hnext
      · simpa using hrest
  · rw [habove, List.length_append] at hlonger
    omega

/-- The names of the root are short. -/
theorem not_root_of_longer (h : 4 < name.length) : isRoot name = false := by
  have hempty : name ≠ "" := by
    rintro rfl
    rw [String.length_empty] at h
    omega
  have hroot : name ≠ "root" := by
    rintro rfl
    exact absurd h (by decide)
  simp [isRoot, hempty, hroot]

/-! ### Steps to the nearest logger -/

/-- Whether there is a logger of a name. -/
def Known (t : LogTree) (name : String) : Prop := (Value.lookup name t.loggers).isSome = true

theorem known_update (t : LogTree) (h : isRoot name = false) (f : Logger → Logger) (other : String) :
    (t.update name f).Known other ↔ other = name ∨ t.Known other := by
  unfold Known update
  rw [h, if_neg Bool.false_ne_true, Value.lookup_put]
  split_ifs with hname <;> simp [hname]

theorem known_withLogger (t : LogTree) (name other : String) :
    (t.withLogger name).Known other ↔ isRoot name = false ∧ other = name ∨ t.Known other := by
  unfold withLogger
  cases hroot : isRoot name with
  | true =>
    rw [update, if_pos hroot]
    simp
  | false => simpa using t.known_update hroot id other

/-- The nearest logger above one, if it is not the root. -/
def nearest? (t : LogTree) (name : String) : Option String :=
  (namesAbove name).find? fun n => (Value.lookup n t.loggers).isSome

/-- A logger, or one from which steps to the nearest one above lead to it. -/
inductive Under (t : LogTree) (above : String) : String → Prop
  | self : Under t above above
  | step {name next : String} (hn : t.nearest? name = some next) (hu : Under t above next) : Under t above name

theorem nearest_mem (h : t.nearest? name = some next) : next ∈ namesAbove name := List.mem_of_find?_eq_some h

/-- A logger whose name stands above another's is the nearest one, or that has a longer name. -/
theorem nearest_of_mem (h : above ∈ namesAbove name) (hk : t.Known above) :
    ∃ next, t.nearest? name = some next ∧ (next = above ∨ above.length < next.length) := by
  obtain ⟨next, hn⟩ : ∃ next, t.nearest? name = some next :=
    Option.isSome_iff_exists.mp (List.find?_isSome.mpr ⟨above, h, hk⟩)
  refine ⟨next, hn, ?_⟩
  obtain ⟨-, skipped, rest, hnames, hskipped⟩ := List.find?_eq_some_iff_append.mp hn
  have hsorted : (namesAbove name).Pairwise fun a b => b.length < a.length := nearest_first_go _
  rw [hnames] at h hsorted
  rcases List.mem_append.mp h with h | h
  · have hunknown := hskipped above h
    rw [hk] at hunknown
    cases hunknown
  · rcases List.mem_cons.mp h with h | h
    · exact .inl h.symm
    · exact .inr (List.rel_of_pairwise_cons (List.pairwise_append.mp hsorted).2.1 h)

namespace Under

theorem split (h : Under t above name) : name = above ∨ ∃ rest, name = above ++ "." ++ rest := by
  induction h with
  | self => exact .inl rfl
  | step hn _ ih =>
    obtain ⟨-, rest, rfl⟩ := split_of_mem (nearest_mem hn)
    rcases ih with rfl | ⟨middle, rfl⟩
    · exact .inr ⟨rest, rfl⟩
    · exact .inr ⟨middle ++ "." ++ rest, by simp only [String.append_assoc]⟩

theorem length_le (h : Under t above name) : above.length ≤ name.length := by
  rcases h.split with rfl | ⟨rest, rfl⟩
  · exact Nat.le_refl _
  · simp only [String.length_append]
    omega

theorem not_root (h : Under t above name) (habove : 4 < above.length) : isRoot name = false :=
  not_root_of_longer (Nat.lt_of_lt_of_le habove h.length_le)

/-- A known logger is above every name that goes on with a point behind its own, and with no other one behind that. -/
theorem of_split (hne : above ≠ "") (hk : t.Known above) (rest : String) (h : rest.toList.head? ≠ some '.') :
    Under t above (above ++ "." ++ rest) := by
  obtain ⟨next, hn, rfl | hlonger⟩ := nearest_of_mem (mem_of_split hne rest h) hk
  · exact .step hn .self
  · obtain ⟨-, behind, hbehind⟩ := split_of_mem (nearest_mem hn)
    obtain ⟨middle, rfl, hrest⟩ := split_of_longer hbehind hlonger
    -- what stands between the two names starts as the rest does, if it is not empty
    have hmiddle : middle.toList.head? ≠ some '.' := by
      intro hhead
      obtain ⟨cs, hcs⟩ := List.head?_eq_some_iff.mp hhead
      apply h
      simp [hrest, hcs]
    have hshorter : middle.length < rest.length := by
      have hpoint : ".".length = 1 := rfl
      rw [hrest]
      simp only [String.length_append]
      omega
    exact .step hn (of_split hne hk middle hmiddle)
termination_by rest.length

/-- Which loggers are above one depends only on those with shorter names. -/
theorem congr {u : LogTree} (h : Under t above name) (hsame : ∀ n, n.length < name.length → (u.Known n ↔ t.Known n)) :
    Under u above name := by
  induction h with
  | self => exact .self
  | @step name next hn hu ih =>
    have hnearest : u.nearest? name = t.nearest? name := by
      apply List.find?_congr
      intro n hmem
      exact Bool.eq_iff_iff.mpr (hsame n (length_lt_of_mem hmem))
    have hlength := length_lt_of_mem (nearest_mem hn)
    exact .step (hnearest.trans hn) (ih fun n hlt => hsame n (Nat.lt_trans hlt hlength))

theorem withLogger_iff : Under (t.withLogger name) above name ↔ Under t above name := by
  have hsame : ∀ n, n.length < name.length → ((t.withLogger name).Known n ↔ t.Known n) := by
    intro n hlt
    have hne : n ≠ name := fun h => absurd hlt (h ▸ Nat.lt_irrefl _)
    simp [t.known_withLogger, hne]
  exact ⟨fun h => h.congr fun n hlt => (hsame n hlt).symm, fun h => h.congr hsame⟩

end Under

/-! ### What a record passes -/

theorem go_eq (t : LogTree) (fuel : Nat) (name : String) : chain.go t (fuel + 1) name =
    t.get name :: match t.nearest? name with | some next => chain.go t fuel next | none => [t.root] := rfl

theorem go_stable {fuel fuel' : Nat} (hpos : 0 < name.length) (h : name.length ≤ fuel) (h' : name.length ≤ fuel') :
    chain.go t fuel name = chain.go t fuel' name := by
  induction fuel generalizing fuel' name with
  | zero => omega
  | succ fuel ih =>
    cases fuel' with
    | zero => omega
    | succ fuel' =>
      rw [go_eq, go_eq]
      cases hn : t.nearest? name with
      | none => rfl
      | some next =>
        have hlength := length_lt_of_mem (nearest_mem hn)
        have hsame : chain.go t fuel next = chain.go t fuel' next :=
          ih (length_pos_of_mem (nearest_mem hn)) (by omega) (by omega)
        simp only [hsame]

theorem length_pos_of_not_root (h : isRoot name = false) : 0 < name.length := by
  rw [Nat.pos_iff_ne_zero]
  intro hempty
  rw [String.length_eq_zero_iff.mp hempty] at h
  cases h

theorem chain_eq (h : isRoot name = false) : t.chain name =
    t.get name :: match t.nearest? name with | some next => chain.go t next.length next | none => [t.root] := by
  have hpos := length_pos_of_not_root h
  obtain ⟨fuel, hfuel⟩ : ∃ fuel, name.length = fuel + 1 := ⟨name.length - 1, by omega⟩
  rw [chain, h, if_neg Bool.false_ne_true, hfuel, go_eq]
  cases hn : t.nearest? name with
  | none => rfl
  | some next =>
    have hlength := length_lt_of_mem (nearest_mem hn)
    have hsame : chain.go t fuel next = chain.go t next.length next :=
      go_stable (length_pos_of_mem (nearest_mem hn)) (by omega) (Nat.le_refl _)
    simp only [hsame]

/-- The chain of a logger goes on with that of the nearest one above. -/
theorem chain_of_nearest (h : isRoot name = false) (hnext : isRoot next = false) (hn : t.nearest? name = some next) :
    t.chain name = t.get name :: t.chain next := by
  rw [chain_eq h, hn, chain, hnext, if_neg Bool.false_ne_true]

/-- On the way up from a name there are only fresh loggers before a certain one. -/
def LeadsTo (t : LogTree) (name base : String) : Prop :=
  ∃ fresh above, t.chain name = List.replicate fresh Logger.fresh ++ t.get base :: above

namespace LeadsTo

theorem self (h : isRoot base = false) : t.LeadsTo base base := ⟨0, _, chain_eq h⟩

theorem step (h : t.LeadsTo next base) (hname : isRoot name = false) (hnext : isRoot next = false)
    (hn : t.nearest? name = some next) (hfresh : t.get name = .fresh) : t.LeadsTo name base := by
  obtain ⟨fresh, above, hchain⟩ := h
  refine ⟨fresh + 1, above, ?_⟩
  rw [chain_of_nearest hname hnext hn, hchain, hfresh, List.replicate_succ, List.cons_append]

/-- A record reaches the handlers of a logger that it is led to, and none above if that passes nothing on. -/
theorem reached (h : t.LeadsTo name base) (hstop : (t.get base).propagates = false) :
    reached (t.chain name) = (t.get base).handlers := by
  obtain ⟨fresh, above, hchain⟩ := h
  rw [hchain]
  clear hchain
  induction fresh with
  | zero => simp [LogTree.reached, hstop]
  | succ fresh ih => simpa [List.replicate_succ, LogTree.reached, Logger.fresh] using ih

theorem firstLevel (h : t.LeadsTo name base) (hlevel : (t.get base).level ≠ 0) :
    firstLevel (t.chain name) = (t.get base).level := by
  obtain ⟨fresh, above, hchain⟩ := h
  unfold LogTree.firstLevel
  rw [hchain]
  clear hchain
  induction fresh with
  | zero => simp [hlevel]
  | succ fresh ih => simpa [List.replicate_succ, Logger.fresh] using ih

end LeadsTo

/-- Of two loggers, one named after the other, below which there are only fresh ones: the way up from a logger under
the outer one leads to the inner one just if that is above, and else to the outer one. -/
theorem Under.leadsTo {outer inner : String} (houter : 4 < outer.length) (hinner : outer.length < inner.length)
    (hfresh : ∀ name, Under t outer name → name ≠ outer → name ≠ inner → t.get name = .fresh)
    (h : Under t outer name) :
    Under t inner name ∧ t.LeadsTo name inner ∨ ¬ Under t inner name ∧ t.LeadsTo name outer := by
  induction h with
  | self =>
    have hself : Under t outer outer := .self
    refine .inr ⟨fun hu => ?_, .self (hself.not_root houter)⟩
    exact absurd hu.length_le (Nat.not_le.mpr hinner)
  | @step name next hn hu ih =>
    have hname : isRoot name = false := (Under.step hn hu).not_root houter
    by_cases hself : name = inner
    · subst hself
      exact .inl ⟨.self, .self hname⟩
    · have houterName : name ≠ outer := by
        rintro rfl
        exact absurd hu.length_le (Nat.not_le.mpr (length_lt_of_mem (nearest_mem hn)))
      have hempty := hfresh name (.step hn hu) houterName hself
      have hnext := hu.not_root houter
      rcases ih with ⟨hin, hleads⟩ | ⟨hout, hleads⟩
      · exact .inl ⟨.step hn hin, hleads.step hname hnext hn hempty⟩
      · refine .inr ⟨fun hin => ?_, hleads.step hname hnext hn hempty⟩
        cases hin with
        | self => exact hself rfl
        | step hn' hin =>
          rw [hn] at hn'
          cases hn'
          exact hout hin

end LogTree

end ForeignBridge
