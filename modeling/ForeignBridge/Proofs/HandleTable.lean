import ForeignBridge.HandleTable
import Mathlib.Tactic

/-!
A table against its history. What a table answers is settled by what has happened to it: the handles that it
gave are the numbers from the first one on, without a gap, and each stands for the thing that was entered under
it until it is removed or everything is cleared.
-/

namespace ForeignBridge

variable {α : Type}

/-- What happens to the entries of a table. -/
inductive HandleEvent (α : Type)
  | issued (handle : Int) (a : α)
  | removed (handle : Int)
  | cleared

namespace HandleEvent

def issued? : HandleEvent α → Option Int
  | issued handle _ => some handle
  | removed _ | cleared => none

/-- What a handle stands for after an event, given what it stood for before. -/
def holder (handle : Int) (held : Option α) : HandleEvent α → Option α
  | issued h a => if h = handle then some a else held
  | removed h => if h = handle then none else held
  | cleared => none

end HandleEvent

/-- The handles that were given, in order. -/
def issuedIn (history : List (HandleEvent α)) : List Int := history.filterMap HandleEvent.issued?

/-- What was entered under a handle and has been neither removed nor cleared since. -/
def holderIn (history : List (HandleEvent α)) (handle : Int) : Option α :=
  history.foldl (HandleEvent.holder handle) none

theorem issuedIn_append (history more : List (HandleEvent α)) :
    issuedIn (history ++ more) = issuedIn history ++ issuedIn more :=
  List.filterMap_append

theorem holderIn_concat (history : List (HandleEvent α)) (e : HandleEvent α) (handle : Int) :
    holderIn (history ++ [e]) handle = e.holder handle (holderIn history handle) :=
  List.foldl_concat ..

/-- What a handle stands for was entered under it. -/
theorem issued_mem_of_holderIn {history : List (HandleEvent α)} {handle : Int} {a : α}
    (h : holderIn history handle = some a) : .issued handle a ∈ history := by
  induction history using List.reverseRecOn with
  | nil => cases h
  | append_singleton history e ih =>
    rw [holderIn_concat] at h
    apply List.mem_append.mpr
    cases e with
    | issued h' a' =>
      simp only [HandleEvent.holder] at h
      split at h
      · rename_i he
        subst he
        cases h
        exact .inr List.mem_cons_self
      · exact .inl (ih h)
    | removed h' =>
      simp only [HandleEvent.holder] at h
      split at h
      · cases h
      · exact .inl (ih h)
    | cleared => cases h

theorem mem_issuedIn_of_holderIn {history : List (HandleEvent α)} {handle : Int} {a : α}
    (h : holderIn history handle = some a) : handle ∈ issuedIn history :=
  List.mem_filterMap.mpr ⟨_, issued_mem_of_holderIn h, rfl⟩

namespace HandleTable

theorem find?_concat (t : HandleTable α) (handle : Int) (a : α) (h : Int) :
    ({ t with entries := t.entries ++ [(handle, a)] } : HandleTable α).find? h =
      (t.find? h).or (if handle = h then some a else none) := by
  unfold find?
  rw [List.find?_append]
  cases t.entries.find? (·.1 == h) with
  | some e => rfl
  | none => by_cases he : handle = h <;> simp [he]

theorem find?_filter (t : HandleTable α) (handle h : Int) :
    ({ t with entries := t.entries.filter (·.1 != handle) } : HandleTable α).find? h =
      if handle = h then none else t.find? h := by
  unfold find?
  rw [List.find?_filter]
  by_cases he : handle = h
  · subst he
    simp
  · have hp : (fun e : Int × α => decide ((e.1 != handle) = true ∧ (e.1 == h) = true)) = fun e => e.1 == h := by
      funext e
      by_cases hh : e.1 = h <;> simp [hh, Ne.symm he]
    rw [hp, if_neg he]

/-- Nothing is removed under a handle that stands for nothing. -/
theorem remove_of_find?_eq_none {t : HandleTable α} {handle : Int} (h : t.find? handle = none) :
    t.remove handle = (.error (.unknownHandle handle t.name), t) := by
  have he : t.entries.filter (·.1 != handle) = t.entries := by
    apply List.filter_eq_self.mpr
    intro e hm
    have hn := List.find?_eq_none.mp (Option.map_eq_none_iff.mp h) e hm
    simpa using hn
  rw [remove, get, h, he]

/-- A table is as its history says. -/
structure Follows (t : HandleTable α) (name : String) (first : Int) (history : List (HandleEvent α)) : Prop where
  name : t.name = name
  /-- the handles that were given are the numbers from the first one on -/
  issued : issuedIn history = (List.range (issuedIn history).length).map fun i : Nat => first + i
  fits : ∀ handle ∈ issuedIn history, handle ≤ maxHandle
  /-- the next number comes right after them, unless there are none left -/
  next : t.next = first + (issuedIn history).length ∨
    maxHandle < t.next ∧ maxHandle < first + (issuedIn history).length
  entries : ∀ handle, t.find? handle = holderIn history handle

namespace Follows

variable {t : HandleTable α} {name : String} {first : Int} {history : List (HandleEvent α)}

theorem new (name : String) (first : Int) : (HandleTable.new name first : HandleTable α).Follows name first [] :=
  ⟨rfl, rfl, nofun, .inl (Int.add_zero first).symm, fun _ => rfl⟩

theorem increasing (h : t.Follows name first history) : (issuedIn history).Pairwise (· < ·) := by
  rw [h.issued, List.pairwise_map]
  apply List.pairwise_lt_range.imp
  intro i j hij
  omega

theorem mem_range (h : t.Follows name first history) {handle : Int} (hm : handle ∈ issuedIn history) :
    first ≤ handle ∧ handle < first + (issuedIn history).length := by
  rw [h.issued] at hm
  obtain ⟨i, hi, rfl⟩ := List.mem_map.mp hm
  have hlt := List.mem_range.mp hi
  constructor <;> omega

theorem get (h : t.Follows name first history) (handle : Int) : t.get handle =
    match holderIn history handle with
    | some a => .ok a
    | none => .error (.unknownHandle handle name) := by
  cases hh : holderIn history handle with
  | some a => rw [HandleTable.get, h.entries, hh]
  | none => rw [HandleTable.get, h.entries, hh, h.name]

/-- An insertion gives the next number, or there is none left and no entry is made. -/
theorem insert (h : t.Follows name first history) (a : α) :
    let handle := first + (issuedIn history).length
    (handle ≤ maxHandle ∧ (t.insert a).1 = .ok handle ∧ (t.insert a).2.entries = t.entries ++ [(handle, a)] ∧
        (t.insert a).2.Follows name first (history ++ [.issued handle a])) ∨
      (maxHandle < handle ∧ (t.insert a).1 = .error (.handlesExhausted name) ∧
        (t.insert a).2.entries = t.entries ∧ (t.insert a).2.Follows name first history) := by
  intro handle
  rcases lt_or_ge maxHandle handle with hmax | hmax
  · have hn : maxHandle < t.next := h.next.elim (fun he => he ▸ hmax) And.left
    have hi : t.insert a = (.error (.handlesExhausted name), { t with next := t.next + 1 }) := by
      rw [HandleTable.insert, if_pos hn, h.name]
    rw [hi]
    exact .inr ⟨hmax, rfl, rfl, h.name, h.issued, h.fits, .inr ⟨by dsimp only; omega, hmax⟩, h.entries⟩
  · have hn : t.next = handle := h.next.resolve_right fun he => absurd he.2 (Int.not_lt.mpr hmax)
    have hi : t.insert a = (.ok handle,
        { t with next := t.next + 1, entries := t.entries ++ [(handle, a)] }) := by
      rw [HandleTable.insert, if_neg (by omega), hn]
    have hone : issuedIn (history ++ [.issued handle a]) = issuedIn history ++ [handle] := issuedIn_append ..
    have hfree : holderIn history handle = none := by
      cases hh : holderIn history handle with
      | none => rfl
      | some b =>
        have := (h.mem_range (mem_issuedIn_of_holderIn hh)).2
        omega
    rw [hi]
    refine .inl ⟨hmax, rfl, rfl, h.name, ?_, ?_, ?_, ?_⟩
    · rw [hone, List.length_append, List.length_singleton, List.range_succ, List.map_append, ← h.issued]
      rfl
    · intro g hg
      rw [hone, List.mem_append, List.mem_singleton] at hg
      obtain hg | rfl := hg
      · exact h.fits g hg
      · exact hmax
    · rw [hone, List.length_append, List.length_singleton]
      dsimp only
      push_cast
      omega
    · intro g
      rw [holderIn_concat, HandleEvent.holder, ← h.entries g]
      refine (find?_concat { t with next := t.next + 1 } handle a g).trans ?_
      change (t.find? g).or _ = _
      split_ifs with hg
      · rw [← hg, h.entries, hfree]
        rfl
      · exact Option.or_none

/-- What gives no handle and leaves the next number keeps a table with its history, if its entries agree. -/
theorem unissued (h : t.Follows name first history) {t' : HandleTable α} {e : HandleEvent α}
    (hi : e.issued? = none) (hname : t'.name = t.name) (hnext : t'.next = t.next)
    (hentries : ∀ handle, t'.find? handle = e.holder handle (t.find? handle)) :
    t'.Follows name first (history ++ [e]) := by
  have hsame : issuedIn (history ++ [e]) = issuedIn history := by
    rw [issuedIn_append, issuedIn, issuedIn, List.filterMap_cons_none hi, List.filterMap_nil, List.append_nil]
  constructor
  · exact hname.trans h.name
  · rw [hsame]
    exact h.issued
  · rw [hsame]
    exact h.fits
  · rw [hsame, hnext]
    exact h.next
  · intro handle
    rw [holderIn_concat, hentries, h.entries]

theorem remove (h : t.Follows name first history) (handle : Int) :
    (t.remove handle).2.Follows name first (history ++ [.removed handle]) :=
  h.unissued rfl rfl rfl (find?_filter t handle)

theorem clear (h : t.Follows name first history) : t.clear.2.Follows name first (history ++ [.cleared]) :=
  h.unissued rfl rfl rfl fun _ => rfl

end Follows

/-- Several things inserted one after the other. -/
def insertAll (t : HandleTable α) (things : List α) : HandleTable α := things.foldl (fun t a => (t.insert a).2) t

/-- Insertions add entries, and each new entry is a handle that was given. -/
theorem Follows.insertAll {t : HandleTable α} {name : String} {first : Int} {history : List (HandleEvent α)}
    (h : t.Follows name first history) (things : List α) : ∃ new, (t.insertAll things).entries = t.entries ++ new ∧
      (t.insertAll things).Follows name first (history ++ new.map fun e => .issued e.1 e.2) := by
  induction things generalizing t history with
  | nil =>
    refine ⟨[], (List.append_nil _).symm, ?_⟩
    rw [List.map_nil, List.append_nil]
    exact h
  | cons a rest ih =>
    obtain ⟨-, -, he, hf⟩ | ⟨-, -, he, hf⟩ := h.insert a
    · obtain ⟨new, hn, hr⟩ := ih hf
      refine ⟨(first + (issuedIn history).length, a) :: new, ?_, ?_⟩
      · refine hn.trans ?_
        rw [he, List.append_assoc, List.singleton_append]
      · rw [List.append_assoc] at hr
        exact hr
    · obtain ⟨new, hn, hr⟩ := ih hf
      exact ⟨new, hn.trans (by rw [he]), hr⟩

end HandleTable

end ForeignBridge
