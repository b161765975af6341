import ForeignBridge.Document.File
import ForeignBridge.Proofs.Files
import ForeignBridge.Proofs.Value.Lookup

/-!
Settings in files. A document gives settings if it is a dictionary with texts as keys, or says nothing; what a file
gives is what was saved in it, where its format gives documents back.
-/

namespace ForeignBridge

namespace Value

/-- No settings come from a value that says something and is no dictionary with texts as keys. -/
theorem settings_eq_error {v : Value} {f : Failure} :
    v.settings = .error f ↔
      f = .notSettings ∧ v.truthy = true ∧ ∀ entries, v = .dict entries → ∃ e ∈ entries, e.1.asText? = none := by
  unfold settings
  by_cases htrue : v.truthy = true
  · rw [htrue, Bool.not_true, if_neg Bool.false_ne_true]
    cases v with
    | dict entries =>
      dsimp only
      split_ifs with hall
      · rw [List.all_eq_true] at hall
        refine ⟨nofun, ?_⟩
        rintro ⟨-, -, hsome⟩
        obtain ⟨⟨k, a⟩, he, hnone⟩ := hsome entries rfl
        have hkey := hall _ he
        cases k with
        | text | halved => cases hnone
        | _ => cases hkey
      · rw [List.all_eq_true] at hall
        push Not at hall
        obtain ⟨⟨k, a⟩, he, hkey⟩ := hall
        have hnone : k.asText? = none := by
          cases k with
          | text | halved => exact absurd rfl hkey
          | _ => rfl
        constructor
        · rintro ⟨⟩
          refine ⟨rfl, rfl, ?_⟩
          rintro _ ⟨⟩
          exact ⟨(k, a), he, hnone⟩
        · rintro ⟨rfl, -, -⟩
          rfl
    | _ => simp [eq_comm]
  · simp [htrue]

theorem settings_ofMembers (members : List (String × Value)) : (ofMembers members).settings = .ok (ofMembers members) := by
  unfold settings ofMembers
  cases members with
  | nil => rfl
  | cons e rest =>
    have htrue : (!(dict ((e :: rest).map fun e => (text e.1, e.2))).truthy) ≠ true := Bool.false_ne_true
    rw [if_neg htrue]
    apply if_pos
    rw [List.all_map]
    exact List.all_eq_true.mpr fun e _ => rfl

mutual

/-- Whether two documents are the same, for documents of texts, whole numbers, truth values and nulls. -/
def agrees : Value → Value → Bool
  | null, null => true
  | bool a, bool b => a == b
  | int a, int b => a == b
  | text a, text b => a == b
  | dict entries, dict others => entriesAgree entries others
  | _, _ => false

def entriesAgree : List (Value × Value) → List (Value × Value) → Bool
  | [], [] => true
  | e :: rest, f :: others => e.1.agrees f.1 && e.2.agrees f.2 && entriesAgree rest others
  | _, _ => false

end

mutual

theorem eq_of_agrees : ∀ {v w : Value}, v.agrees w = true → v = w
  | null, w, h => by cases w <;> first | rfl | cases h
  | bool a, w, h => by cases w <;> first | exact congrArg bool (eq_of_beq h) | cases h
  | int a, w, h => by cases w <;> first | exact congrArg int (eq_of_beq h) | cases h
  | text a, w, h => by cases w <;> first | exact congrArg text (eq_of_beq h) | cases h
  | dict entries, w, h => by cases w <;> first | exact congrArg dict (eq_of_entriesAgree h) | cases h
  | float _, _, h | halved _, _, h | bytes _ _, _, h | list _, _, h | tuple _, _, h | moment _, _, h | date _, _, h
  | span _, _, h | record _ _ _, _, h | member _ _ _, _, h | declared _ _, _, h | exception _ _ _, _, h
  | thing _ _, _, h | wrapper _ _, _, h | received _ _, _, h | implementation _ _ _, _, h => by cases h

theorem eq_of_entriesAgree : ∀ {entries others : List (Value × Value)}, entriesAgree entries others = true →
    entries = others
  | [], [], _ => rfl
  | [], _ :: _, h => by cases h
  | _ :: _, [], h => by cases h
  | e :: rest, f :: others, h => by
    obtain ⟨hentry, hrest⟩ := Bool.and_eq_true_iff.mp h
    obtain ⟨hkey, hvalue⟩ := Bool.and_eq_true_iff.mp hentry
    rw [eq_of_entriesAgree hrest, Prod.ext (eq_of_agrees hkey) (eq_of_agrees hvalue)]

end

end Value

namespace DocumentFormat

/-- A document that can be printed in a format and is read back as it was; its entries may be in another order, but not
those of the dictionaries in it. -/
def LoadsBack (f : DocumentFormat) (v : Value) : Prop :=
  ∃ text members loaded, v = .ofMembers members ∧ f.print v = .ok text ∧ f.read text = .ok (.ofMembers loaded)
    ∧ loaded.Perm members

/-- Whether a document is read back as it was, in the same order. -/
def readsBack (f : DocumentFormat) (v : Value) : Bool :=
  match f.print v with
  | .error _ => false
  | .ok text =>
    match f.read text with
    | .error _ => false
    | .ok w => w.agrees v

theorem LoadsBack.of_readsBack {f : DocumentFormat} {v : Value} {members : List (String × Value)}
    (hv : v = .ofMembers members) (h : f.readsBack v = true) : f.LoadsBack v := by
  subst hv
  unfold readsBack at h
  cases hprint : f.print (.ofMembers members) with
  | error e =>
    rw [hprint] at h
    cases h
  | ok text =>
    rw [hprint] at h
    dsimp only at h
    cases hread : f.read text with
    | error u =>
      rw [hread] at h
      cases h
    | ok w =>
      rw [hread] at h
      exact ⟨text, members, members, rfl, hprint, hread.trans (congrArg Except.ok (Value.eq_of_agrees h)), .refl _⟩

end DocumentFormat

namespace Files

variable {files : Files} {missing path text : String} {f : Failure}

/-- What is looked for makes a difference just where there is no file. -/
theorem read_eq (files : Files) (missing other path : String) :
    files.read other path =
      match files.read missing path with
      | .error (.noFile _ p) => .error (.noFile other p)
      | r => r := by
  unfold read
  dsimp only
  cases files.place (Path.names path) with
  | error o => cases o <;> rfl
  | ok place =>
    dsimp only
    cases files.textAt? place with
    | some text => rfl
    | none => split_ifs <;> rfl

theorem settings_eq (h : files.read missing path = .ok text) (content : String) :
    files.settings missing content path =
      match (DocumentFormat.ofPath path).read text with
      | .error .malformed => .error (.unreadableDocument content)
      | .error (.failure f) => .error f
      | .ok v => v.settings := by
  unfold settings
  rw [h]
  rfl

theorem settings_save {files' : Files} {members : List (String × Value)} (hsave : files.save path text = .ok files')
    (h : (DocumentFormat.ofPath path).read text = .ok (.ofMembers members)) (missing content : String) :
    files'.settings missing content path = .ok (.ofMembers members) := by
  rw [settings_eq (read_save hsave missing), h]
  exact Value.settings_ofMembers members

theorem settings_of_unread (h : files.read missing path = .error f) (content : String) :
    files.settings missing content path = .error f := by
  unfold settings
  rw [h]
  rfl

end Files

end ForeignBridge
