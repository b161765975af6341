import Mathlib.Tactic.SplitIfs
import ForeignBridge.Files
import ForeignBridge.Proofs.Value.Lookup

/-!
Files that were written to. Making directories and writing files leaves every directory there, so that paths lead
where they led before. A path that was opened can be opened again, and what was saved under it is read back.
-/

namespace ForeignBridge

/-! ### Paths -/

namespace Path

theorem names_ne_empty {path name : String} (h : name ∈ names path) : name ≠ "" := by
  rintro rfl
  rw [names, List.mem_append] at h
  rcases h with h | h
  · split_ifs at h
    · exact absurd (List.mem_singleton.mp h) (by decide)
    · cases h
  · simp at h

theorem ofNames_of_ne {first : String} (h : first ≠ "/") (rest : List String) :
    ofNames (first :: rest) = "/".intercalate (first :: rest) := by
  unfold ofNames
  split
  · rename_i heq
    exact (h (List.cons.inj heq).1).elim
  · rfl

theorem length_ofNames_lt (place : List String) {name : String} (h : name ≠ "") :
    (ofNames place).length < (ofNames (place ++ [name])).length := by
  have hname : 0 < name.length := Nat.pos_of_ne_zero (mt String.length_eq_zero_iff.mp h)
  have hlonger : ∀ names : List String,
      ("/".intercalate names).length < ("/".intercalate (names ++ [name])).length := by
    intro names
    by_cases hn : names = []
    · subst hn
      simpa using hname
    · rw [String.intercalate_append_of_ne_nil hn (List.cons_ne_nil _ _)]
      simp only [String.length_append, String.intercalate_singleton]
      omega
  cases place with
  | nil =>
    by_cases hroot : name = "/"
    · subst hroot
      decide
    · rw [List.nil_append, ofNames_of_ne hroot]
      exact hlonger []
  | cons first rest =>
    by_cases hroot : first = "/"
    · subst hroot
      change ("/" ++ "/".intercalate rest).length < ("/" ++ "/".intercalate (rest ++ [name])).length
      rw [String.length_append, String.length_append]
      exact Nat.add_lt_add_left (hlonger rest) _
    · rw [List.cons_append, ofNames_of_ne hroot, ofNames_of_ne hroot]
      exact hlonger (first :: rest)

end Path

namespace Files

variable {files files' : Files} {place place' names : List String} {path name text : String}

/-! ### Directories stay -/

/-- Whether all directories of some files are there among others. -/
def Within (files files' : Files) : Prop := ∀ place, files.isDirectory place = true → files'.isDirectory place = true

theorem Within.refl (files : Files) : files.Within files := fun _ h => h

theorem Within.trans {files'' : Files} (h : files.Within files') (h' : files'.Within files'') : files.Within files'' :=
  fun place hp => h' place (h place hp)

/-- What makes a place a directory: that it leads up only, that it was made, or that a file is under it. -/
theorem isDirectory_iff : files.isDirectory place = true ↔
    (∀ n ∈ place, n = ".." ∨ n = "/") ∨ Path.ofNames place ∈ files.directories
      ∨ ∃ n ∈ files.texts.map Prod.fst, n.startsWith (Path.ofNames place ++ "/") = true := by
  unfold isDirectory
  simp [or_assoc]

theorem within_write (files : Files) (place : List String) (text : String) : files.Within (files.write place text) := by
  intro p hp
  rw [isDirectory_iff] at hp ⊢
  rcases hp with hup | hmade | ⟨n, hn, hunder⟩
  · exact .inl hup
  · exact .inr (.inl hmade)
  · exact .inr (.inr ⟨n, Value.mem_names_put.mpr (.inr hn), hunder⟩)

/-- A file is no directory for being written. -/
theorem isDirectory_write (files : Files) (place : List String) (text : String) :
    (files.write place text).isDirectory place = files.isDirectory place := by
  rw [Bool.eq_iff_iff]
  refine ⟨fun h => ?_, files.within_write place text place⟩
  rw [isDirectory_iff] at h ⊢
  rcases h with hup | hmade | ⟨n, hn, hunder⟩
  · exact .inl hup
  · exact .inr (.inl hmade)
  · rcases Value.mem_names_put.mp hn with rfl | hn
    · have hprefix := (String.startsWith_string_iff.mp hunder).length_le
      simp only [String.toList_append, List.length_append] at hprefix
      exact absurd hprefix (by simp)
    · exact .inr (.inr ⟨n, hn, hunder⟩)

theorem walk_within (h : files.Within files') (hw : files.walk place names = .ok place') :
    files'.walk place names = .ok place' := by
  induction names generalizing place with
  | nil => exact hw
  | cons name rest ih =>
    unfold walk at hw ⊢
    cases hd : files.isDirectory place with
    | false =>
      rw [hd] at hw
      cases hw
    | true =>
      rw [hd] at hw
      rw [h place hd]
      simp only [Bool.not_true, Bool.false_eq_true, if_false] at hw ⊢
      split_ifs at hw ⊢ with hlong
      exact ih hw

theorem place_within (h : files.Within files') (hp : files.place names = .ok place) :
    files'.place names = .ok place := by
  unfold Files.place at hp ⊢
  split_ifs at hp ⊢ with hnull hlong
  split at hp
  · exact walk_within h hp
  · exact walk_within h hp

/-! ### Making directories -/

theorem makeOne_ok (h : files.makeOne names = .ok files') :
    files.Within files' ∧ ∃ place, files'.place names = .ok place ∧ files'.isDirectory place = true
      ∧ files'.textAt? place = none := by
  unfold makeOne at h
  cases hp : files.place names with
  | error o =>
    rw [hp] at h
    cases h
  | ok place =>
    rw [hp] at h
    dsimp only at h
    split_ifs at h with htext hd
    · cases h
      exact ⟨.refl _, place, hp, hd, Option.not_isSome_iff_eq_none.mp htext⟩
    · cases h
      have hwithin : files.Within { files with directories := files.directories ++ [Path.ofNames place] } := by
        intro p hp
        rw [isDirectory_iff] at hp ⊢
        exact hp.imp_right (.imp_left (List.mem_append_left _))
      refine ⟨hwithin, place, place_within hwithin hp, ?_, Option.not_isSome_iff_eq_none.mp htext⟩
      rw [isDirectory_iff]
      exact .inr (.inl (List.mem_append_right _ List.mem_cons_self))

/-- Where a directory is there, with no file in its place, there is nothing to make. -/
theorem makeOne_again (hp : files.place names = .ok place) (hd : files.isDirectory place = true)
    (ht : files.textAt? place = none) : files.makeOne names = .ok files := by
  unfold makeOne
  rw [hp]
  dsimp only
  rw [ht, hd]
  rfl

variable {above : List String} {last : String}

/-- When all directories are made the last of them comes last. -/
theorem makeAll_last (h : files.makeAll (last :: above) = .ok files') :
    ∃ files₀, files.Within files₀ ∧ files₀.makeOne (last :: above).reverse = .ok files' := by
  induction above generalizing files files' last with
  | nil =>
    unfold makeAll at h
    dsimp only at h
    split at h <;> exact ⟨files, .refl _, h⟩
  | cons name above ih =>
    unfold makeAll at h
    dsimp only at h
    split at h
    · cases hmade : files.makeAll (name :: above) with
      | error e =>
        rw [hmade] at h
        cases h
      | ok files₁ =>
        rw [hmade] at h
        obtain ⟨files₀, hwithin, hlast⟩ := ih hmade
        exact ⟨files₁, hwithin.trans (makeOne_ok hlast).1, h⟩
    · exact ⟨files, .refl _, h⟩

theorem makeAll_again (hp : files.place (last :: above).reverse = .ok place) (hd : files.isDirectory place = true)
    (ht : files.textAt? place = none) : files.makeAll (last :: above) = .ok files := by
  unfold makeAll
  dsimp only
  rw [hp]
  exact makeOne_again hp hd ht

/-! ### Opening, saving and reading -/

theorem walk_append (files : Files) (place first second : List String) :
    files.walk place (first ++ second) = (do files.walk (← files.walk place first) second) := by
  induction first generalizing place with
  | nil => rfl
  | cons name rest ih =>
    rw [List.cons_append, walk, walk]
    split_ifs
    · rfl
    · rfl
    · rfl
    · exact ih _

theorem place_eq_ok (h : files.place names = .ok place) :
    (∃ rest, names = "/" :: rest ∧ files.walk ["/"] rest = .ok place)
      ∨ names.head? ≠ some "/" ∧ files.walk [] names = .ok place := by
  unfold Files.place at h
  split_ifs at h
  split at h
  · exact .inl ⟨_, rfl, h⟩
  · rename_i hroot
    refine .inr ⟨?_, h⟩
    intro hhead
    obtain ⟨rest, rfl⟩ := List.head?_eq_some_iff.mp hhead
    exact hroot rest rfl

/-- A path leads one step further than the path of its directory. -/
theorem place_concat (hp : files.place above = .ok place) (hn : files.place (above ++ [last]) = .ok place')
    (hroot : above = [] → last ≠ "/") : place' = step place last := by
  have hend : ∀ {start rest : List String}, files.walk start rest = .ok place →
      files.walk start (rest ++ [last]) = .ok place' → place' = step place last := by
    intro start rest hstart hstep
    rw [walk_append, hstart] at hstep
    change files.walk place [last] = .ok place' at hstep
    unfold walk walk at hstep
    split_ifs at hstep
    exact (Except.ok.inj hstep).symm
  rcases place_eq_ok hn with ⟨rest, hnames, hn⟩ | ⟨hhead, hn⟩
  · cases above with
    | nil => exact absurd (List.cons.inj hnames).1 (hroot rfl)
    | cons first more =>
      obtain ⟨rfl, rfl⟩ := List.cons.inj hnames
      rcases place_eq_ok hp with ⟨_, heq, hp⟩ | ⟨hfirst, -⟩
      · obtain ⟨-, rfl⟩ := List.cons.inj heq
        exact hend hp hn
      · exact absurd rfl hfirst
  · rcases place_eq_ok hp with ⟨rest, rfl, -⟩ | ⟨-, hp⟩
    · exact absurd rfl hhead
    · exact hend hp hn

/-- A step from a directory to what is no directory leads to a place with a name of its own. -/
theorem ofNames_step_ne (hd : files.isDirectory place = true) (hn : files.isDirectory (step place last) = false)
    (hlast : last ≠ "") : Path.ofNames (step place last) ≠ Path.ofNames place := by
  intro hsame
  rcases isDirectory_iff.mp hd with hup | hthere
  · unfold step at hsame hn
    have hupwards : ∀ {p : List String}, (∀ n ∈ p, n = ".." ∨ n = "/") → files.isDirectory p ≠ false := by
      intro p hp
      rw [isDirectory_iff.mpr (.inl hp)]
      decide
    split_ifs at hsame hn with hback
    · exact absurd (congrArg String.length hsame) (Nat.ne_of_gt (Path.length_ofNames_lt place hlast))
    · have hagain : ∀ n ∈ place ++ [last], n = ".." ∨ n = "/" := by
        intro n hm
        rcases List.mem_append.mp hm with hm | hm
        · exact hup n hm
        · rw [List.mem_singleton.mp hm]
          exact .inl (not_not.mp hback)
      split at hn
      · exact hupwards hagain hn
      · exact hupwards hagain hn
      · exact hupwards hup hn
      · exact hupwards (fun n hm => hup n (List.dropLast_subset place hm)) hn
  · -- what makes the one place a directory looks at its name alone
    rw [← hsame] at hthere
    rw [isDirectory_iff.mpr (.inr hthere)] at hn
    cases hn

theorem textAt?_write (files : Files) (place other : List String) (text : String) :
    (files.write place text).textAt? other
      = if Path.ofNames other = Path.ofNames place then some text else files.textAt? other :=
  Value.lookup_put _ _ _ _

variable {found : Option String}

theorem openAt_eq_ok : files.openAt path = .ok (files', place, found) ↔
    files.makeAll (Path.names path).dropLast.reverse = .ok files' ∧ files'.place (Path.names path) = .ok place
      ∧ files'.isDirectory place = false ∧ files'.textAt? place = found := by
  unfold openAt
  dsimp only
  cases files.makeAll (Path.names path).dropLast.reverse with
  | error e => exact ⟨nofun, nofun⟩
  | ok made =>
    simp only [bind, Except.bind]
    cases hp : made.place (Path.names path) with
    | error o =>
      refine ⟨nofun, ?_⟩
      rintro ⟨hmade, hplace, -⟩
      rw [← Except.ok.inj hmade, hp] at hplace
      cases hplace
    | ok found =>
      dsimp only
      constructor
      · intro h
        split_ifs at h with hd
        cases h
        exact ⟨rfl, hp, Bool.eq_false_iff.mpr hd, rfl⟩
      · rintro ⟨hmade, hplace, hd, rfl⟩
        obtain rfl := Except.ok.inj hmade
        obtain rfl := Except.ok.inj (hp.symm.trans hplace)
        rw [hd]
        rfl

/-- A path that was opened is opened again, with nothing to make any more. -/
theorem openAt_again (h : files.openAt path = .ok (files', place, found)) (text : String) :
    (files'.write place text).openAt path = .ok (files'.write place text, place, some text) := by
  obtain ⟨hmade, hplace, hnot, -⟩ := openAt_eq_ok.mp h
  have hwithin := files'.within_write place text
  refine openAt_eq_ok.mpr ⟨?_, place_within hwithin hplace, (files'.isDirectory_write place text).trans hnot, ?_⟩
  · cases habove : (Path.names path).dropLast.reverse with
    | nil => rfl
    | cons last above =>
      rw [habove] at hmade
      obtain ⟨files₀, -, hlast⟩ := makeAll_last hmade
      obtain ⟨-, up, hup, hd, ht⟩ := makeOne_ok hlast
      have hparents : (Path.names path).dropLast = (last :: above).reverse := by rw [← habove, List.reverse_reverse]
      have hne : Path.names path ≠ [] := by
        intro hnil
        rw [hnil] at habove
        cases habove
      -- the file is one step from the last directory, and that has a name of its own
      have hnames : Path.names path = (last :: above).reverse ++ [(Path.names path).getLast hne] := by
        rw [← hparents, List.dropLast_append_getLast]
      have hstep : place = step up ((Path.names path).getLast hne) := by
        rw [hnames] at hplace
        exact place_concat hup hplace fun hnil => absurd hnil (by simp)
      have hother : Path.ofNames place ≠ Path.ofNames up := by
        rw [hstep] at hnot ⊢
        exact ofNames_step_ne hd hnot (Path.names_ne_empty (List.getLast_mem hne))
      apply makeAll_again (place_within hwithin hup) (hwithin up hd)
      rw [textAt?_write, if_neg hother.symm]
      exact ht
  · rw [textAt?_write, if_pos rfl]

/-- What was saved is read back. -/
theorem read_save (h : files.save path text = .ok files') (missing : String) : files'.read missing path = .ok text := by
  unfold save at h
  cases ho : files.openAt path with
  | error e =>
    rw [ho] at h
    cases h
  | ok opened =>
    obtain ⟨made, place, found⟩ := opened
    rw [ho] at h
    obtain rfl : made.write place text = files' := Except.ok.inj h
    obtain ⟨-, hplace, -, -⟩ := openAt_eq_ok.mp ho
    unfold read
    dsimp only
    rw [place_within (made.within_write place text) hplace]
    dsimp only
    rw [textAt?_write, if_pos rfl]

end Files

end ForeignBridge
