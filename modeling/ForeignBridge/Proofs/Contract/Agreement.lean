import Mathlib.Tactic
import ForeignBridge.Contract.Verify
import ForeignBridge.Proofs.Frame

/-!
What a verification finds. How a library disagrees with a manifest can be said without verifying anything. A
verification that collects reports just these disagreements, a strict one ends with the first of them, and where there
is none the two are the same.
-/

namespace ForeignBridge

open Act

/-- The counts of calls after some functions were called once more. -/
def countCalls (calls : List (String × Nat)) (symbols : List String) : List (String × Nat) :=
  symbols.foldl (fun calls symbol => Value.put symbol ((Value.lookup symbol calls).getD 0 + 1) calls) calls

theorem countCalls_append (calls : List (String × Nat)) (symbols more : List String) :
    countCalls calls (symbols ++ more) = countCalls (countCalls calls symbols) more :=
  List.foldl_append

namespace NativeLibrary

variable {l : NativeLibrary} {m : ContractManifest} {symbol : String} {actual : Int} {why : ContractFailure}
  {w : World} {r : ContractReport}

def exports (l : NativeLibrary) (symbol : String) : Bool := (Value.lookup symbol l.symbols).isSome

/-- How the library disagrees with an expected checksum, if it does. -/
def disagreement? (l : NativeLibrary) (expected : String × Int) : Option ContractFailure :=
  match Value.lookup expected.1 l.symbols with
  | none => some (.missingSymbol expected.1)
  | some actual => if actual = expected.2 then none else some (.checksum expected.1 expected.2 actual)

/-- All that the library disagrees with. Checksums mean nothing across versions. -/
def disagreements (l : NativeLibrary) (m : ContractManifest) : List ContractFailure :=
  match Value.lookup m.versionSymbol l.symbols with
  | none => [.missingSymbol m.versionSymbol]
  | some version =>
    if version = m.version then m.checksums.filterMap l.disagreement?
    else [.version m.space m.version version]

/-- The symbols of the checksums that are read: those exported, if the version is the expected one. -/
def checked (l : NativeLibrary) (m : ContractManifest) : List String :=
  if Value.lookup m.versionSymbol l.symbols = some m.version then (m.checksums.map Prod.fst).filter l.exports else []

/-- The report of all disagreements. -/
def report (l : NativeLibrary) (m : ContractManifest) : ContractReport :=
  ⟨m.space, Value.lookup m.versionSymbol l.symbols, l.checked m, l.disagreements m⟩

/-- The version and every checksum are the expected ones. -/
structure Matches (l : NativeLibrary) (m : ContractManifest) : Prop where
  version : Value.lookup m.versionSymbol l.symbols = some m.version
  checksums : ∀ c ∈ m.checksums, Value.lookup c.1 l.symbols = some c.2

theorem disagreement?_eq_none {expected : String × Int} :
    l.disagreement? expected = none ↔ Value.lookup expected.1 l.symbols = some expected.2 := by
  unfold disagreement?
  cases Value.lookup expected.1 l.symbols with
  | none => simp
  | some actual => by_cases h : actual = expected.2 <;> simp [h]

theorem disagreements_eq_nil : l.disagreements m = [] ↔ l.Matches m := by
  unfold disagreements
  constructor
  · intro h
    cases hv : Value.lookup m.versionSymbol l.symbols with
    | none => simp [hv] at h
    | some version =>
      rw [hv] at h
      dsimp only at h
      split_ifs at h with hversion
      refine ⟨hversion ▸ hv, fun c hc => disagreement?_eq_none.mp ?_⟩
      exact List.filterMap_eq_nil_iff.mp h c hc
  · intro h
    rw [h.version]
    dsimp only
    rw [if_pos rfl, List.filterMap_eq_nil_iff]
    exact fun c hc => disagreement?_eq_none.mpr (h.checksums c hc)

/-- Where all is as expected, the report lists every checksum. -/
theorem Matches.report (h : l.Matches m) :
    l.report m = ⟨m.space, some m.version, m.checksums.map Prod.fst, []⟩ := by
  have hchecked : l.checked m = m.checksums.map Prod.fst := by
    unfold checked
    rw [if_pos h.version, List.filter_eq_self]
    intro symbol hs
    obtain ⟨c, hc, rfl⟩ := List.mem_map.mp hs
    rw [exports, h.checksums c hc]
    rfl
  rw [NativeLibrary.report, h.version, hchecked, disagreements_eq_nil.mpr h]

theorem read_missing (h : Value.lookup symbol l.symbols = none) (w : World) :
    l.read symbol w = .ok (.error (.missingSymbol symbol)) w := by
  unfold read
  rw [h]
  rfl

theorem read_exported (h : Value.lookup symbol l.symbols = some actual) (w : World) :
    l.read symbol w = .ok (.ok actual) { w with calls := countCalls w.calls [symbol] } := by
  unfold read
  rw [h]
  rfl

theorem record_strict (r : ContractReport) (why : ContractFailure) (w : World) :
    ∃ w', r.record true why w = .error (.contract why) w' :=
  ⟨_, rfl⟩

theorem record_collecting (r : ContractReport) (why : ContractFailure) (w : World) :
    ∃ log, r.record false why w = .ok { r with mismatches := r.mismatches ++ [why] } { w with log := log } :=
  ⟨_, rfl⟩

/-- A disagreement with one checksum is recorded, whether the symbol is missing or differs. -/
theorem verifyChecksums_disagreeing {c : String × Int} (h : l.disagreement? c = some why) (strict : Bool)
    (r : ContractReport) (rest : List (String × Int)) (w : World) :
    verifyChecksums l strict r (c :: rest) w =
      (do verifyChecksums l strict
            (← ContractReport.record { r with checked := r.checked ++ [c.1].filter l.exports } strict why) rest : Act _)
        { w with calls := countCalls w.calls ([c.1].filter l.exports) } := by
  unfold disagreement? at h
  cases hc : Value.lookup c.1 l.symbols with
  | none =>
    rw [hc] at h
    cases h
    have he : [c.1].filter l.exports = [] := by simp [exports, hc]
    rw [he, List.append_nil]
    exact bind_of_ok (read_missing hc w)
  | some actual =>
    rw [hc] at h
    dsimp only at h
    split_ifs at h with ha
    cases h
    have he : [c.1].filter l.exports = [c.1] := by simp [exports, hc]
    rw [he]
    refine (bind_of_ok (read_exported hc w)).trans ?_
    simp only [ne_eq, ha, not_false_eq_true, if_true]

theorem verifyChecksums_agreeing {c : String × Int} (h : l.disagreement? c = none) (strict : Bool)
    (r : ContractReport) (rest : List (String × Int)) (w : World) :
    verifyChecksums l strict r (c :: rest) w =
      verifyChecksums l strict { r with checked := r.checked ++ [c.1].filter l.exports } rest
        { w with calls := countCalls w.calls ([c.1].filter l.exports) } := by
  have hc := disagreement?_eq_none.mp h
  have he : [c.1].filter l.exports = [c.1] := by simp [exports, hc]
  rw [he]
  refine (bind_of_ok (read_exported hc w)).trans ?_
  simp only [ne_eq, not_true_eq_false, if_false]
  exact bind_of_ok rfl

/-- Collecting goes through all the checksums. -/
theorem verifyChecksums_collecting (l : NativeLibrary) (r : ContractReport) (checksums : List (String × Int))
    (w : World) :
    ∃ log, verifyChecksums l false r checksums w =
      .ok { r with
          checked := r.checked ++ (checksums.map Prod.fst).filter l.exports
          mismatches := r.mismatches ++ checksums.filterMap l.disagreement? }
        { w with calls := countCalls w.calls ((checksums.map Prod.fst).filter l.exports), log := log } := by
  induction checksums generalizing r w with
  | nil =>
    refine ⟨w.log, ?_⟩
    simp only [List.map_nil, List.filter_nil, List.filterMap_nil, List.append_nil]
    rfl
  | cons c rest ih =>
    have hfilter : ((c :: rest).map Prod.fst).filter l.exports =
        [c.1].filter l.exports ++ (rest.map Prod.fst).filter l.exports := by
      rw [← List.filter_append]
      rfl
    rw [hfilter, countCalls_append, ← List.append_assoc]
    cases hd : l.disagreement? c with
    | none =>
      rw [verifyChecksums_agreeing hd, List.filterMap_cons_none hd]
      exact ih _ _
    | some why =>
      obtain ⟨noted, hrecord⟩ := record_collecting { r with checked := r.checked ++ [c.1].filter l.exports } why
        { w with calls := countCalls w.calls ([c.1].filter l.exports) }
      obtain ⟨log, hrest⟩ := ih _ { w with calls := countCalls w.calls ([c.1].filter l.exports), log := noted }
      rw [List.filterMap_cons_some hd, List.append_cons, verifyChecksums_disagreeing hd, bind_of_ok hrecord]
      exact ⟨log, hrest⟩

/-- A strict verification of checksums ends with the first disagreement, and without one it is as collecting is. -/
theorem verifyChecksums_strict (l : NativeLibrary) (r : ContractReport) (checksums : List (String × Int)) (w : World) :
    match checksums.filterMap l.disagreement? with
    | [] => verifyChecksums l true r checksums w = verifyChecksums l false r checksums w
    | why :: _ => ∃ w', verifyChecksums l true r checksums w = .error (.contract why) w' := by
  induction checksums generalizing r w with
  | nil => rfl
  | cons c rest ih =>
    cases hd : l.disagreement? c with
    | none =>
      rw [List.filterMap_cons_none hd, verifyChecksums_agreeing hd, verifyChecksums_agreeing hd]
      exact ih _ _
    | some why =>
      rw [List.filterMap_cons_some hd]
      dsimp only
      rw [verifyChecksums_disagreeing hd]
      obtain ⟨w', hrecord⟩ := record_strict { r with checked := r.checked ++ [c.1].filter l.exports } why
        { w with calls := countCalls w.calls ([c.1].filter l.exports) }
      exact ⟨w', bind_of_error hrecord⟩

/-- The functions that a collecting verification calls. -/
def consulted (l : NativeLibrary) (m : ContractManifest) : List String :=
  [m.versionSymbol].filter l.exports ++ l.checked m

theorem verifyContract_missing (h : Value.lookup m.versionSymbol l.symbols = none) (strict : Bool) (w : World) :
    verifyContract l m strict w =
      ContractReport.record ⟨m.space, none, [], []⟩ strict (.missingSymbol m.versionSymbol) w :=
  bind_of_ok (read_missing h w)

theorem verifyContract_skewed {version : Int} (h : Value.lookup m.versionSymbol l.symbols = some version)
    (hne : version ≠ m.version) (strict : Bool) (w : World) :
    verifyContract l m strict w =
      ContractReport.record ⟨m.space, some version, [], []⟩ strict (.version m.space m.version version)
        { w with calls := countCalls w.calls [m.versionSymbol] } := by
  refine (bind_of_ok (read_exported h w)).trans ?_
  simp only [ne_eq, hne, not_false_eq_true, if_true]

/-- With the expected version a verification is one of the checksums, and a note if they are as expected, too. -/
theorem verifyContract_current (h : Value.lookup m.versionSymbol l.symbols = some m.version) (strict : Bool)
    (w : World) :
    verifyContract l m strict w =
      (do let r ← verifyChecksums l strict ⟨m.space, some m.version, [], []⟩ m.checksums
          if r.isOk then
            let count := r.checked.length
            World.note .info .contract
              s!"Contract verified for '{m.space}' (version {m.version}, {count} checksums)"
          return r : Act ContractReport)
        { w with calls := countCalls w.calls [m.versionSymbol] } := by
  refine (bind_of_ok (read_exported h w)).trans ?_
  simp only [ne_eq, not_true_eq_false, if_false]

/-- Collecting reports the disagreements, and has called what it consulted. -/
theorem verifyContract_collecting (l : NativeLibrary) (m : ContractManifest) (w : World) :
    ∃ log, verifyContract l m false w =
      .ok (l.report m) { w with calls := countCalls w.calls (l.consulted m), log := log } := by
  unfold consulted report checked disagreements
  cases hv : Value.lookup m.versionSymbol l.symbols with
  | none =>
    have he : [m.versionSymbol].filter l.exports = [] := by simp [exports, hv]
    rw [verifyContract_missing hv, he]
    exact record_collecting _ _ w
  | some version =>
    have he : [m.versionSymbol].filter l.exports = [m.versionSymbol] := by simp [exports, hv]
    rw [he]
    by_cases hversion : version = m.version
    · subst hversion
      rw [verifyContract_current hv, if_pos rfl, countCalls_append]
      dsimp only
      rw [if_pos rfl]
      obtain ⟨log, hrun⟩ := verifyChecksums_collecting l ⟨m.space, some m.version, [], []⟩ m.checksums
        { w with calls := countCalls w.calls [m.versionSymbol] }
      rw [bind_of_ok hrun]
      dsimp only [List.nil_append]
      split_ifs with hok
      · exact ⟨_, rfl⟩
      · exact ⟨_, rfl⟩
    · have hne : some version ≠ some m.version := fun h => hversion (Option.some.inj h)
      rw [verifyContract_skewed hv hversion, if_neg hne]
      dsimp only
      rw [if_neg hversion]
      exact record_collecting _ _ _

/-- A strict verification ends with the first disagreement, and without one it is as collecting is. -/
theorem verifyContract_strict (l : NativeLibrary) (m : ContractManifest) (w : World) :
    match l.disagreements m with
    | [] => verifyContract l m true w = verifyContract l m false w
    | why :: _ => ∃ w', verifyContract l m true w = .error (.contract why) w' := by
  unfold disagreements
  cases hv : Value.lookup m.versionSymbol l.symbols with
  | none =>
    dsimp only
    rw [verifyContract_missing hv]
    exact record_strict _ _ w
  | some version =>
    dsimp only
    by_cases hversion : version = m.version
    · subst hversion
      rw [if_pos rfl, verifyContract_current hv, verifyContract_current hv]
      have hstrict := verifyChecksums_strict l ⟨m.space, some m.version, [], []⟩ m.checksums
        { w with calls := countCalls w.calls [m.versionSymbol] }
      cases hd : m.checksums.filterMap l.disagreement? with
      | nil =>
        rw [hd] at hstrict
        exact bind_of_eq hstrict _
      | cons why rest =>
        rw [hd] at hstrict
        obtain ⟨w', hrun⟩ := hstrict
        exact ⟨w', bind_of_error hrun⟩
    · rw [if_neg hversion]
      dsimp only
      rw [verifyContract_skewed hv hversion]
      exact record_strict _ _ _

/-- A library that matches verifies either way, with the same report. -/
theorem Matches.verifyContract (h : l.Matches m) (strict : Bool) (w : World) :
    ∃ w', ForeignBridge.verifyContract l m strict w = .ok (l.report m) w' := by
  obtain ⟨log, hcollect⟩ := verifyContract_collecting l m w
  cases strict with
  | false => exact ⟨_, hcollect⟩
  | true =>
    have hstrict := verifyContract_strict l m w
    rw [disagreements_eq_nil.mpr h] at hstrict
    exact ⟨_, hstrict.trans hcollect⟩

/-- Where a library does not match, a strict verification fails. -/
theorem verifyContract_unmatched (h : ¬ l.Matches m) (w : World) :
    ∃ why w', verifyContract l m true w = .error (.contract why) w' := by
  obtain ⟨why, rest, hd⟩ := List.exists_cons_of_ne_nil (mt disagreements_eq_nil.mp h)
  have hstrict := verifyContract_strict l m w
  rw [hd] at hstrict
  exact ⟨why, hstrict⟩

/-- The report is ok just if the library matches. -/
theorem report_isOk : (l.report m).isOk = true ↔ l.Matches m := by
  rw [← disagreements_eq_nil]
  exact List.isEmpty_iff

end NativeLibrary

end ForeignBridge
