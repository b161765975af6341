import Mathlib.Data.List.Nodup
import Mathlib.Tactic.SplitIfs
import ForeignBridge.Value.Basic

/-!
Named things. A lookup finds the first thing of a name; a put leaves one thing of its name and all of the others.
-/

namespace ForeignBridge.Value

variable {α : Type}

theorem lookup_mem {name : String} {found : α} {named : List (String × α)}
    (h : lookup name named = some found) : (name, found) ∈ named := by
  induction named with
  | nil => cases h
  | cons e rest ih =>
    rw [lookup] at h
    split at h
    · rename_i hn
      cases h
      rw [← hn]
      exact List.mem_cons_self
    · exact List.mem_cons_of_mem e (ih h)

theorem lookup_of_nodup {named : List (String × α)} (h : (named.map Prod.fst).Nodup) {name : String} {a : α}
    (hm : (name, a) ∈ named) : lookup name named = some a := by
  induction named with
  | nil => cases hm
  | cons f rest ih =>
    obtain ⟨hf, hr⟩ := List.nodup_cons.mp h
    rw [lookup]
    obtain rfl | hm := List.mem_cons.mp hm
    · exact if_pos rfl
    · rw [if_neg, ih hr hm]
      intro hfn
      exact hf (hfn ▸ List.mem_map_of_mem hm)

theorem not_mem_of_lookup {name : String} {named : List (String × α)}
    (h : lookup name named = none) : name ∉ named.map Prod.fst := by
  induction named with
  | nil => exact List.not_mem_nil
  | cons e rest ih =>
    obtain ⟨n, a⟩ := e
    unfold lookup at h
    split_ifs at h with hn
    rw [List.map_cons, List.mem_cons]
    rintro (rfl | hm)
    · exact hn rfl
    · exact ih h hm

/-- A name that has a value stands at a position, with its first value. -/
theorem lookup_index {name : String} {a : α} {named : List (String × α)}
    (h : lookup name named = some a) :
    ∃ i, (named.map Prod.fst).idxOf? name = some i ∧ named[i]? = some (name, a) := by
  induction named with
  | nil => cases h
  | cons m rest ih =>
    obtain ⟨n, b⟩ := m
    simp only [lookup] at h
    split at h
    · rename_i hn
      cases h
      exact ⟨0, by simp [List.idxOf?_cons, hn], by simp [hn]⟩
    · rename_i hn
      obtain ⟨i, hi, hv⟩ := ih h
      exact ⟨i + 1, by simp [List.idxOf?_cons, hn, hi], hv⟩

theorem lookup_append (name : String) (first second : List (String × α)) :
    lookup name (first ++ second) = (lookup name first).or (lookup name second) := by
  induction first with
  | nil => rfl
  | cons e rest ih =>
    rw [List.cons_append, lookup, lookup, ih]
    split_ifs <;> rfl

theorem lookup_put (name other : String) (a : α) (named : List (String × α)) :
    lookup other (put name a named) = if other = name then some a else lookup other named := by
  induction named with
  | nil => by_cases h : other = name <;> simp [put, lookup, h, Ne.symm]
  | cons e rest ih =>
    obtain ⟨n, b⟩ := e
    unfold put
    by_cases hn : n = name
    · subst hn
      by_cases h : other = n <;> simp [lookup, h, eq_comm]
    · by_cases h : n = other
      · subst h
        simp [lookup, hn]
      · simp [lookup, hn, h, ih]

theorem put_of_new {name : String} {a : α} {named : List (String × α)}
    (h : name ∉ named.map Prod.fst) : put name a named = named ++ [(name, a)] := by
  induction named with
  | nil => rfl
  | cons m rest ih =>
    simp only [List.map_cons, List.mem_cons, not_or] at h
    simp [put, Ne.symm h.1, ih h.2]

theorem mem_put {name : String} {a : α} {named : List (String × α)} {e : String × α} (h : e ∈ put name a named) :
    e = (name, a) ∨ e ∈ named := by
  induction named with
  | nil => exact .inl (List.mem_singleton.mp h)
  | cons m rest ih =>
    obtain ⟨n, b⟩ := m
    unfold put at h
    split_ifs at h with hn
    · obtain rfl | hr := List.mem_cons.mp h
      · exact .inl (congrArg (·, a) hn)
      · exact .inr (List.mem_cons_of_mem _ hr)
    · obtain rfl | hr := List.mem_cons.mp h
      · exact .inr List.mem_cons_self
      · exact (ih hr).imp_right (List.mem_cons_of_mem _)

theorem mem_names_put {a : α} {named : List (String × α)} {name n : String} :
    n ∈ (put name a named).map Prod.fst ↔ n = name ∨ n ∈ named.map Prod.fst := by
  induction named with
  | nil => simp [put]
  | cons m rest ih =>
    unfold put
    split_ifs with h
    · subst h
      simp
    · rw [List.map_cons, List.mem_cons, ih, List.map_cons, List.mem_cons]
      exact or_left_comm

theorem nodup_put {name : String} {a : α} {named : List (String × α)} (h : (named.map Prod.fst).Nodup) :
    ((put name a named).map Prod.fst).Nodup := by
  induction named with
  | nil => exact List.nodup_singleton _
  | cons m rest ih =>
    obtain ⟨n, b⟩ := m
    obtain ⟨hm, hr⟩ := List.nodup_cons.mp h
    unfold put
    split_ifs with hn
    · exact h
    · refine List.nodup_cons.mpr ⟨fun hp => ?_, ih hr⟩
      obtain ⟨e, he, hen⟩ := List.mem_map.mp hp
      obtain rfl | he := mem_put he
      · exact hn hen.symm
      · exact hm (List.mem_map.mpr ⟨e, he, hen⟩)

/-- The order of things with names of their own makes no difference. -/
theorem lookup_perm {named other : List (String × α)} (h : (named.map Prod.fst).Nodup) (hp : other.Perm named)
    (name : String) : lookup name other = lookup name named := by
  have hother : (other.map Prod.fst).Nodup := (hp.map Prod.fst).nodup_iff.mpr h
  cases hn : lookup name named with
  | some a => exact lookup_of_nodup hother (hp.mem_iff.mpr (lookup_mem hn))
  | none =>
    cases ho : lookup name other with
    | none => rfl
    | some a =>
      have hm : (name, a) ∈ named := hp.mem_iff.mp (lookup_mem ho)
      exact (not_mem_of_lookup hn (List.mem_map_of_mem hm)).elim

theorem lookup_reverse {named : List (String × α)} (h : (named.map Prod.fst).Nodup) (name : String) :
    lookup name named.reverse = lookup name named :=
  lookup_perm h (List.reverse_perm named) name

theorem lookup_filter {named : List (String × α)} (h : (named.map Prod.fst).Nodup) (p : String × α → Bool)
    (name : String) : lookup name (named.filter p) = (lookup name named).filter fun a => p (name, a) := by
  cases hn : lookup name named with
  | some a =>
    cases hp : p (name, a) with
    | true =>
      rw [Option.filter_some, if_pos hp]
      apply lookup_of_nodup
      · exact h.sublist (List.Sublist.map Prod.fst List.filter_sublist)
      · exact List.mem_filter.mpr ⟨lookup_mem hn, hp⟩
    | false =>
      rw [Option.filter_some, if_neg (Bool.eq_false_iff.mp hp)]
      cases hl : lookup name (named.filter p) with
      | none => rfl
      | some b =>
        obtain ⟨hm, hb⟩ := List.mem_filter.mp (lookup_mem hl)
        obtain rfl : a = b := Option.some.inj (hn.symm.trans (lookup_of_nodup h hm))
        rw [hp] at hb
        cases hb
  | none =>
    cases hl : lookup name (named.filter p) with
    | none => rfl
    | some b =>
      have hm : (name, b) ∈ named := (List.mem_filter.mp (lookup_mem hl)).1
      exact (not_mem_of_lookup hn (List.mem_map_of_mem hm)).elim

/-- Of things that are put one after another the last one of a name is found. -/
theorem lookup_foldl_put (name : String) (added named : List (String × α)) :
    lookup name (added.foldl (fun found e => put e.1 e.2 found) named)
      = (lookup name added.reverse).or (lookup name named) := by
  induction added generalizing named with
  | nil => rfl
  | cons e rest ih =>
    rw [List.foldl_cons, ih, lookup_put, List.reverse_cons, lookup_append, lookup, lookup]
    by_cases h : name = e.1
    · rw [if_pos h, if_pos h.symm]
      cases lookup name rest.reverse <;> rfl
    · rw [if_neg h, if_neg (Ne.symm h), Option.or_none]

theorem nodup_foldl_put (added : List (String × α)) {named : List (String × α)} (h : (named.map Prod.fst).Nodup) :
    ((added.foldl (fun found e => put e.1 e.2 found) named).map Prod.fst).Nodup := by
  induction added generalizing named with
  | nil => exact h
  | cons e rest ih => exact ih (nodup_put h)

/-- Things with names of their own are put one after another behind what is there. -/
theorem foldl_put_of_nodup {β : Type} {g : β → α} {added : List (String × β)} {named : List (String × α)}
    (h : (named.map Prod.fst ++ added.map Prod.fst).Nodup) :
    added.foldl (fun found e => put e.1 (g e.2) found) named = named ++ added.map fun e => (e.1, g e.2) := by
  induction added generalizing named with
  | nil => simp
  | cons e rest ih =>
    have hnew : e.1 ∉ named.map Prod.fst := fun hm => (List.nodup_append'.mp h).2.2 hm (by simp)
    have hrest : ((named ++ [(e.1, g e.2)]).map Prod.fst ++ rest.map Prod.fst).Nodup := by
      simpa using h
    rw [List.foldl_cons, put_of_new hnew, ih hrest, List.append_assoc, List.map_cons, List.singleton_append]

end ForeignBridge.Value
