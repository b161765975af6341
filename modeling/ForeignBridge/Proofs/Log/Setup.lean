import ForeignBridge.Log.Manager
import ForeignBridge.Proofs.Files
import ForeignBridge.Proofs.Log.Ancestry

/-!
What managers of logging do. A setup attaches a handler for the stream to each of the two loggers, and one for the
log file if there is one; it ends early, with the handlers for the stream attached, just if the file cannot be opened.
A shutdown takes away what the manager has recorded.
-/

namespace ForeignBridge

/-- Whether lines are written to a file. -/
def Sink.isFile : Sink → Bool
  | .file _ => true
  | _ => false

/-- The line that a handler writes of a record, if it has one, with where that goes. -/
def Handler.write (r : LogRecord) (h : Handler) : Option (Sink × LogLine) :=
  match h.layout.line r with
  | .ok line => some (h.sink, line)
  | .error _ => none

/-! ### Loggers -/

namespace LogTree

variable {name : String}

theorem get_update (t : LogTree) (h : isRoot name = false) (f : Logger → Logger) (other : String) :
    (t.update name f).get other = if other = name then f (t.get name) else t.get other := by
  unfold update
  by_cases hroot : isRoot other = true
  · have hne : other ≠ name := by
      rintro rfl
      rw [h] at hroot
      cases hroot
    simp only [get, h, hroot, if_true, Bool.false_eq_true, if_false, if_neg hne]
  · simp only [get, h, hroot, Bool.false_eq_true, if_false, Value.lookup_put]
    split_ifs <;> rfl

theorem get_update_root (t : LogTree) (h : isRoot name = true) (f : Logger → Logger) (other : String) :
    (t.update name f).get other = if isRoot other then f (t.get name) else t.get other := by
  rw [update, if_pos h]
  by_cases hother : isRoot other = true
  · simp only [get, h, hother, if_true]
  · simp only [get, hother, if_false, Bool.false_eq_true]

theorem get_withLogger (t : LogTree) (name other : String) : (t.withLogger name).get other = t.get other := by
  unfold withLogger
  by_cases h : isRoot name = true
  · rw [update, if_pos h]
    rfl
  · rw [t.get_update (by simpa using h)]
    split_ifs with hname
    · rw [hname]
      rfl
    · rfl

/-- Loggers lose the handlers that are detached from them, and no other ones. -/
theorem handlers_detached (t : LogTree) {taken : List (String × Nat)} (h : ∀ r ∈ taken, isRoot r.1 = false) (name : String) :
    ((taken.foldl (fun t r => t.update r.1 fun l => { l.detach r.2 with propagates := true }) t).get name).handlers
      = (t.get name).handlers.filter fun a => (name, a.id) ∉ taken := by
  induction taken generalizing t with
  | nil => simp
  | cons r rest ih =>
    obtain ⟨hr, hrest⟩ := List.forall_mem_cons.mp h
    obtain ⟨logger, number⟩ := r
    rw [List.foldl_cons, ih _ hrest, t.get_update hr]
    split_ifs with hname
    · subst hname
      rw [Logger.detach, List.filter_filter]
      apply List.filter_congr
      intro a _
      rw [Bool.eq_iff_iff]
      simp [and_comm]
    · apply List.filter_congr
      intro a _
      simp [hname]

theorem get_detached (t : LogTree) {taken : List (String × Nat)} (h : ∀ r ∈ taken, isRoot r.1 = false)
    (hname : ∀ r ∈ taken, r.1 ≠ name) :
    (taken.foldl (fun t r => t.update r.1 fun l => { l.detach r.2 with propagates := true }) t).get name
      = t.get name := by
  induction taken generalizing t with
  | nil => rfl
  | cons r rest ih =>
    obtain ⟨hr, hrest⟩ := List.forall_mem_cons.mp h
    obtain ⟨hother, hothers⟩ := List.forall_mem_cons.mp hname
    rw [List.foldl_cons, ih _ hrest hothers, t.get_update hr, if_neg hother.symm]

end LogTree

/-! ### Actions -/

namespace LogAct

variable {α β : Type} {x : LogAct α} {f : α → LogAct β} {s t : Logging}

theorem bind_of_ok {a : α} (h : x s = .ok a t) : (x >>= f) s = f a t := by
  change EStateM.bind x f s = _
  rw [EStateM.bind, h]

theorem bind_of_error {e : Failure} (h : x s = .error e t) : (x >>= f) s = .error e t := by
  change EStateM.bind x f s = _
  rw [EStateM.bind, h]

end LogAct

namespace Logging

variable {s : Logging} {path : String}

/-- A message is logged if its extra data takes no name that it must not take: to every handler that it reaches and
that has a line for it. -/
theorem log_eq {extra : List (String × Value)} (h : ∀ e ∈ extra, e.1 ∉ LogRecord.reservedNames) (name : String)
    (level : Int) (message : Value) (s : Logging) :
    log name level message extra s = .ok () { s with
      tree := s.tree.withLogger name
      written := s.written ++
        if (s.tree.withLogger name).enabled name level then
          ((s.tree.withLogger name).receivers name level).filterMap
            (Handler.write (.plain s.now (LogTree.nameOf name) level message extra))
        else [] } := by
  have hnone : extra.find? (fun e => LogRecord.reservedNames.contains e.1) = none := by
    rw [List.find?_eq_none]
    intro e he
    simpa using h e he
  change (if (s.tree.withLogger name).enabled name level then _ else pure () : LogAct Unit)
    { s with tree := s.tree.withLogger name } = _
  split_ifs
  · rw [hnone]
    rfl
  · rw [List.append_nil]
    rfl

theorem log_run {extra : List (String × Value)} (h : ∀ e ∈ extra, e.1 ∉ LogRecord.reservedNames) (name : String)
    (level : Int) (message : Value) (s : Logging) :
    ∃ written, log name level message extra s = .ok () { s with tree := s.tree.withLogger name, written := written } :=
  ⟨_, log_eq h name level message s⟩

/-- A message makes its logger known, and may be written, whatever comes of it. -/
def Touches (name : String) (s t : Logging) : Prop :=
  ∃ written, t = { s with tree := s.tree.withLogger name, written := written }

theorem log_touches (name : String) (level : Int) (message : Value) (extra : List (String × Value)) (s : Logging) :
    (∃ t, log name level message extra s = .ok () t ∧ Touches name s t)
      ∨ ∃ e t, log name level message extra s = .error e t ∧ Touches name s t := by
  have hrun : log name level message extra s =
      (if (s.tree.withLogger name).enabled name level then _ else pure () : LogAct Unit)
        { s with tree := s.tree.withLogger name } := rfl
  rw [hrun]
  split_ifs
  · cases extra.find? fun e => LogRecord.reservedNames.contains e.1 with
    | some e => exact .inr ⟨_, _, rfl, _, rfl⟩
    | none => exact .inl ⟨_, rfl, _, rfl⟩
  · exact .inl ⟨_, rfl, _, rfl⟩

/-- Nothing was written between two states, and it is as late as it was. -/
def Quiet (s t : Logging) : Prop := t.written = s.written ∧ t.now = s.now

theorem Quiet.trans {s t u : Logging} (h : Quiet s t) (h' : Quiet t u) : Quiet s u :=
  ⟨h'.1.trans h.1, h'.2.trans h.2⟩

theorem openFile_of_error {e : Failure} (h : s.files.openAt path = .error e) : openFile path s = .error e s := by
  unfold openFile
  have hget : (get : LogAct Logging) s = .ok s s := rfl
  rw [LogAct.bind_of_ok hget, h]
  rfl

theorem openFile_of_ok {files : Files} {place : List String} {found : Option String}
    (h : s.files.openAt path = .ok (files, place, found)) :
    openFile path s = .ok (.file (Path.ofNames place)) { s with files := files.write place (found.getD "") } := by
  unfold openFile
  have hget : (get : LogAct Logging) s = .ok s s := rfl
  rw [LogAct.bind_of_ok hget, h]
  rfl

end Logging

namespace LoggingManager

open Logging

variable {id : Nat} {m m' : LoggingManager} {s t : Logging} {path : String}

theorem ofId_run (hm : s.managers[id]? = some m) : ofId id s = .ok m s := by
  change EStateM.Result.ok (s.managers[id]?.getD (new none)) s = _
  rw [hm]
  rfl

/-! ### Attached handlers -/

def loggerOf (callbacks : Bool) : String := if callbacks then callbackLogger else runtimeLogger

/-- The loggers that managers attach handlers to. -/
def ownLoggers : List String := [runtimeLogger, callbackLogger]

theorem loggerOf_not_root (callbacks : Bool) : LogTree.isRoot (loggerOf callbacks) = false := by
  cases callbacks <;> decide

theorem loggerOf_mem (callbacks : Bool) : loggerOf callbacks ∈ ownLoggers := by
  cases callbacks <;> decide

theorem loggerOf_inj {callbacks callbacks' : Bool} :
    loggerOf callbacks = loggerOf callbacks' ↔ callbacks = callbacks' := by
  revert callbacks callbacks'
  decide

theorem mem_ownLoggers {name : String} : name ∈ ownLoggers ↔ ∃ callbacks, name = loggerOf callbacks := by
  simp [ownLoggers, loggerOf]

/-- Handlers attached by a manager between two states, by the name of the logger. The manager has them on record,
and what it has recorded since is younger than the first state. -/
structure Attaches (id : Nat) (s t : Logging) (m m' : LoggingManager) (added : String → List Handler) : Prop where
  manager : t.managers[id]? = some m'
  config : m'.config = m.config
  handlers : ∀ name, (t.tree.get name).handlers = (s.tree.get name).handlers ++ added name
  kept : ∀ r ∈ m.handlers, r ∈ m'.handlers
  recorded : ∀ name, ∀ h ∈ added name, (name, h.id) ∈ m'.handlers
  young : ∀ r ∈ m'.handlers, r ∈ m.handlers ∨ LogTree.isRoot r.1 = false ∧ s.handlersMade ≤ r.2
  made : s.handlersMade ≤ t.handlersMade

namespace Attaches

variable {u : Logging} {m'' : LoggingManager} {added later : String → List Handler}

theorem refl (hm : s.managers[id]? = some m) : Attaches id s s m m fun _ => [] where
  manager := hm
  config := rfl
  handlers _ := (List.append_nil _).symm
  kept _ hr := hr
  recorded _ _ hh := absurd hh List.not_mem_nil
  young _ hr := .inl hr
  made := Nat.le_refl _

theorem trans (h : Attaches id s t m m' added) (h' : Attaches id t u m' m'' later) :
    Attaches id s u m m'' fun name => added name ++ later name where
  manager := h'.manager
  config := h'.config.trans h.config
  handlers name := by rw [h'.handlers, h.handlers, List.append_assoc]
  kept r hr := h'.kept r (h.kept r hr)
  recorded name a ha := by
    rcases List.mem_append.mp ha with ha | ha
    · exact h'.kept _ (h.recorded name a ha)
    · exact h'.recorded name a ha
  young r hr := by
    rcases h'.young r hr with hr | ⟨hroot, hmade⟩
    · exact h.young r hr
    · exact .inr ⟨hroot, Nat.le_trans h.made hmade⟩
  made := Nat.le_trans h.made h'.made

/-- Files make no difference to what is attached. -/
theorem withFiles (h : Attaches id s t m m' added) (files : Files) : Attaches id s { t with files := files } m m' added :=
  { h with }

end Attaches

/-- What kinds of handlers were attached to each of a manager's loggers, and that there are none on others. A handler
is told by whether it writes to a file. -/
def Kinds (added : String → List Handler) (files : List Bool) : Prop :=
  ∀ name, (added name).map (fun h => h.sink.isFile) = if name ∈ ownLoggers then files else []

theorem Kinds.append {added later : String → List Handler} {files others : List Bool} (h : Kinds added files)
    (h' : Kinds later others) : Kinds (fun name => added name ++ later name) (files ++ others) := by
  intro name
  rw [List.map_append, h name, h' name]
  split_ifs <;> rfl

/-- Handlers attached by a manager for certain sinks, as it is configured and the same on both of its loggers. Other
loggers are as they were. -/
structure AttachesFor (id : Nat) (s t : Logging) (m m' : LoggingManager) (added : String → List Handler)
    (sinks : List Sink) : Prop extends Attaches id s t m m' added where
  alike : ∀ callbacks, (added (loggerOf callbacks)).map (fun h => (h.sink, h.level, h.layout))
    = sinks.map fun sink => (sink, m.level, m.layout callbacks)
  nowhere : ∀ name ∉ ownLoggers, added name = []
  places : ∀ r ∈ m'.handlers, r ∈ m.handlers ∨ r.1 ∈ ownLoggers
  others : ∀ name ∉ ownLoggers, t.tree.get name = s.tree.get name

namespace AttachesFor

variable {u : Logging} {m'' : LoggingManager} {added later : String → List Handler} {sinks sinks' : List Sink}

theorem refl (hm : s.managers[id]? = some m) : AttachesFor id s s m m (fun _ => []) [] where
  toAttaches := .refl hm
  alike _ := rfl
  nowhere _ _ := rfl
  places _ hr := .inl hr
  others _ _ := rfl

theorem trans (h : AttachesFor id s t m m' added sinks) (h' : AttachesFor id t u m' m'' later sinks') :
    AttachesFor id s u m m'' (fun name => added name ++ later name) (sinks ++ sinks') where
  toAttaches := h.toAttaches.trans h'.toAttaches
  alike callbacks := by
    have hlevel : m'.level = m.level := congrArg (fun c => c.level.value.number) h.config
    have hlayout : m'.layout callbacks = m.layout callbacks := by
      unfold layout
      rw [h.config]
    rw [List.map_append, List.map_append, h.alike, h'.alike, hlevel, hlayout]
  nowhere name hname := by rw [h.nowhere name hname, h'.nowhere name hname, List.append_nil]
  places r hr := by
    rcases h'.places r hr with hr | hr
    · exact h.places r hr
    · exact .inr hr
  others name hname := (h'.others name hname).trans (h.others name hname)

theorem withFiles (h : AttachesFor id s t m m' added sinks) (files : Files) :
    AttachesFor id s { t with files := files } m m' added sinks :=
  { h with }

theorem touched (h : AttachesFor id s t m m' added sinks) {name : String} (ht : Touches name t u) :
    AttachesFor id s u m m' added sinks := by
  obtain ⟨written, rfl⟩ := ht
  have hget : ∀ other, (t.tree.withLogger name).get other = t.tree.get other := t.tree.get_withLogger name
  exact { h with
    handlers := fun other => (congrArg Logger.handlers (hget other)).trans (h.handlers other)
    others := fun other hother => (hget other).trans (h.others other hother) }

theorem sinks_eq (h : AttachesFor id s t m m' added sinks) (callbacks : Bool) :
    (added (loggerOf callbacks)).map (·.sink) = sinks := by
  have hsinks := congrArg (List.map Prod.fst) (h.alike callbacks)
  rw [List.map_map, List.map_map] at hsinks
  exact hsinks.trans (List.map_id _)

theorem configured_alike (h : AttachesFor id s t m m' added sinks) {callbacks : Bool} {a : Handler}
    (ha : a ∈ added (loggerOf callbacks)) : a.level = m.level ∧ a.layout = m.layout callbacks := by
  have hmem := List.mem_map_of_mem (f := fun h : Handler => (h.sink, h.level, h.layout)) ha
  rw [h.alike] at hmem
  obtain ⟨sink, -, hsame⟩ := List.mem_map.mp hmem
  simp only [Prod.mk.injEq] at hsame
  exact ⟨hsame.2.1.symm, hsame.2.2.symm⟩

theorem kinds (h : AttachesFor id s t m m' added sinks) : Kinds added (sinks.map Sink.isFile) := by
  intro name
  split_ifs with hname
  · obtain ⟨callbacks, rfl⟩ := mem_ownLoggers.mp hname
    rw [← h.sinks_eq callbacks, List.map_map]
    rfl
  · rw [h.nowhere name hname, List.map_nil]

end AttachesFor

/-- A state with one more handler, which a manager has attached to one of its loggers. -/
def withOwn (id : Nat) (m : LoggingManager) (callbacks : Bool) (sink : Sink) (s : Logging) : Logging :=
  { s with
    handlersMade := s.handlersMade + 1
    tree := s.tree.update (loggerOf callbacks) fun l => l.attach ⟨s.handlersMade, sink, m.level, m.layout callbacks⟩
    managers := s.managers.modify id fun m =>
      { m with handlers := m.handlers ++ [(loggerOf callbacks, s.handlersMade)] } }

theorem get_withOwn (callbacks : Bool) (sink : Sink) (name : String) :
    (withOwn id m callbacks sink s).tree.get name = if name = loggerOf callbacks then
      (s.tree.get (loggerOf callbacks)).attach ⟨s.handlersMade, sink, m.level, m.layout callbacks⟩
      else s.tree.get name :=
  s.tree.get_update (loggerOf_not_root callbacks) _ name

theorem attachOwn_run (hm : s.managers[id]? = some m) (callbacks : Bool) (sink : Sink) :
    attachOwn id callbacks sink s = .ok () (withOwn id m callbacks sink s) := by
  unfold attachOwn
  rw [LogAct.bind_of_ok (ofId_run hm)]
  rfl

theorem attaches_withOwn (hm : s.managers[id]? = some m) (callbacks : Bool) (sink : Sink) :
    Attaches id s (withOwn id m callbacks sink s) m
      { m with handlers := m.handlers ++ [(loggerOf callbacks, s.handlersMade)] } fun name =>
        if name = loggerOf callbacks then [⟨s.handlersMade, sink, m.level, m.layout callbacks⟩] else [] where
  manager := by
    change (s.managers.modify id _)[id]? = _
    rw [List.getElem?_modify_eq, hm]
    rfl
  config := rfl
  handlers name := by
    rw [get_withOwn]
    split_ifs with hname
    · rw [hname]
      rfl
    · exact (List.append_nil _).symm
  kept r hr := List.mem_append_left _ hr
  recorded name a ha := by
    split_ifs at ha with hname
    · rw [List.mem_singleton.mp ha, hname]
      exact List.mem_append_right _ List.mem_cons_self
    · cases ha
  young r hr := by
    rcases List.mem_append.mp hr with hr | hr
    · exact .inl hr
    · rw [List.mem_singleton.mp hr]
      exact .inr ⟨loggerOf_not_root callbacks, Nat.le_refl _⟩
  made := Nat.le_succ _

/-- A handler for a sink on each of the two loggers, whatever becomes of the files in between. -/
theorem attachBoth_run (hm : s.managers[id]? = some m) (files : Files) (sink : Sink) :
    ∃ t m' added, attachOwn id true sink { withOwn id m false sink s with files := files } = .ok () t
      ∧ AttachesFor id s t m m' added [sink] ∧ m'.configured = m.configured ∧ t.files = files ∧ Quiet s t := by
  have hfirst := (attaches_withOwn hm false sink).withFiles files
  have hsecond := attaches_withOwn hfirst.manager true sink
  refine ⟨_, _, _, attachOwn_run hfirst.manager true sink, ⟨hfirst.trans hsecond, ?_, ?_, ?_, ?_⟩, rfl, rfl, rfl, rfl⟩
  · intro callbacks
    simp only [loggerOf_inj]
    cases callbacks <;> rfl
  · intro name hname
    rw [mem_ownLoggers, not_exists] at hname
    simp only [if_neg (hname _), List.append_nil]
  · intro r hr
    simp only [List.mem_append, List.mem_singleton, or_assoc] at hr
    rcases hr with hr | rfl | rfl
    · exact .inl hr
    · exact .inr (loggerOf_mem false)
    · exact .inr (loggerOf_mem true)
  · intro name hname
    rw [mem_ownLoggers, not_exists] at hname
    have hother : (withOwn id m false sink s).tree.get name = s.tree.get name :=
      (get_withOwn false sink name).trans (if_neg (hname false))
    rw [get_withOwn, if_neg (hname true)]
    exact hother

/-! ### Log files -/

theorem attachFile_eq (id : Nat) (path : String) : attachFile id path = (do
    attachOwn id false (← openFile path)
    attachOwn id true (← openFile path)) := by
  unfold attachFile
  simp

theorem attachFile_of_error {e : Failure} (h : s.files.openAt path = .error e) : attachFile id path s = .error e s := by
  rw [attachFile_eq]
  exact LogAct.bind_of_error (openFile_of_error h)

/-- A log file that can be opened gets a handler on both loggers. -/
theorem attachFile_of_ok {files : Files} {place : List String} {found : Option String} (hm : s.managers[id]? = some m)
    (h : s.files.openAt path = .ok (files, place, found)) :
    ∃ t m' added, attachFile id path s = .ok () t ∧ AttachesFor id s t m m' added [.file (Path.ofNames place)]
      ∧ m'.configured = m.configured ∧ Quiet s t := by
  have hagain := Files.openAt_again h (found.getD "")
  obtain ⟨t, m', added, hrun, hattaches, hconfigured, -, hquiet⟩ :=
    attachBoth_run hm ((files.write place (found.getD "")).write place (found.getD "")) (.file (Path.ofNames place))
  refine ⟨t, m', added, ?_, hattaches, hconfigured, hquiet⟩
  set sink := Sink.file (Path.ofNames place)
  have hmanager : { s with files := files.write place (found.getD "") }.managers[id]? = some m := hm
  have hfirst := attachOwn_run hmanager false sink
  have hsecond := openFile_of_ok
    (s := withOwn id m false sink { s with files := files.write place (found.getD "") }) hagain
  rw [attachFile_eq, LogAct.bind_of_ok (openFile_of_ok h)]
  exact ((LogAct.bind_of_ok hfirst).trans (LogAct.bind_of_ok hsecond)).trans hrun

/-! ### Setting up -/

/-- A setup says that it is done. -/
def announce (m : LoggingManager) : LogAct Unit :=
  log (runtimeLogger ++ ".logging") Level.info.number (.text "FireflyFFI logging system initialized") m.announcement

/-- What a setup does when all handlers are attached. -/
def complete (id : Nat) (m : LoggingManager) : LogAct Unit := do
  changeLogger runtimeLogger fun l => { l with level := m.level, propagates := false }
  changeLogger callbackLogger fun l => { l with level := m.level, propagates := false }
  change id fun m => { m with configured := true }
  announce m

theorem announcement_allowed (m : LoggingManager) : ∀ e ∈ m.announcement, e.1 ∉ LogRecord.reservedNames := by
  simp only [announcement, List.forall_mem_cons, List.not_mem_nil]
  exact ⟨by decide, by decide, by decide, nofun⟩

theorem announce_touches (h : announce m s = .ok () t) : Touches (runtimeLogger ++ ".logging") s t := by
  obtain ⟨written, hlog⟩ := log_run m.announcement_allowed (runtimeLogger ++ ".logging") Level.info.number
    (.text "FireflyFFI logging system initialized") s
  cases hlog.symm.trans h
  exact ⟨written, rfl⟩

/-- The loggers of a manager as it sets them: they have its level and pass nothing on. -/
def InForce (m : LoggingManager) (t : LogTree) : Prop :=
  ∀ callbacks, (t.get (loggerOf callbacks)).level = m.level ∧ (t.get (loggerOf callbacks)).propagates = false
    ∧ t.Known (loggerOf callbacks)

theorem InForce.withLogger {t : LogTree} (h : InForce m t) (name : String) : InForce m (t.withLogger name) := by
  intro callbacks
  obtain ⟨hlevel, hstop, hknown⟩ := h callbacks
  rw [t.get_withLogger]
  exact ⟨hlevel, hstop, (t.known_withLogger name _).mpr (.inr hknown)⟩

theorem InForce.touched {u : Logging} (h : InForce m t.tree) {name : String} (ht : Touches name t u) :
    InForce m u.tree := by
  obtain ⟨written, rfl⟩ := ht
  exact h.withLogger name

/-- A logger with a manager's level, that passes nothing on. -/
def settle (m : LoggingManager) (l : Logger) : Logger := { l with level := m.level, propagates := false }

def settled (m : LoggingManager) (t : LogTree) : LogTree :=
  (t.update runtimeLogger m.settle).update callbackLogger m.settle

theorem get_settled (m : LoggingManager) (t : LogTree) (name : String) : (m.settled t).get name =
    if name ∈ ownLoggers then m.settle (t.get name) else t.get name := by
  have hruntime : LogTree.isRoot runtimeLogger = false := loggerOf_not_root false
  have hcallbacks : LogTree.isRoot callbackLogger = false := loggerOf_not_root true
  have hne : callbackLogger ≠ runtimeLogger := by decide
  unfold settled
  rw [LogTree.get_update _ hcallbacks, LogTree.get_update _ hruntime, LogTree.get_update _ hruntime, if_neg hne]
  simp only [ownLoggers, List.mem_cons, List.not_mem_nil, or_false]
  by_cases hcallback : name = callbackLogger
  · simp [hcallback]
  · by_cases hname : name = runtimeLogger <;> simp [hcallback, hname, hne.symm]

theorem inForce_settled (m : LoggingManager) (t : LogTree) : InForce m (m.settled t) := by
  intro callbacks
  have hknown : (m.settled t).Known (loggerOf callbacks) := by
    apply (LogTree.known_update _ (loggerOf_not_root true) _ _).mpr
    cases callbacks with
    | false => exact .inr ((t.known_update (loggerOf_not_root false) _ _).mpr (.inl rfl))
    | true => exact .inl rfl
  rw [get_settled, if_pos (loggerOf_mem callbacks)]
  exact ⟨rfl, rfl, hknown⟩

/-- Once all handlers are attached, the loggers come in force, and that is announced. -/
theorem complete_run (hm : s.managers[id]? = some m') :
    ∃ u t, complete id m s = .ok () t ∧ announce m u = .ok () t
      ∧ AttachesFor id s u m' { m' with configured := true } (fun _ => []) [] ∧ InForce m u.tree ∧ Quiet s u := by
  set u : Logging :=
    { s with tree := m.settled s.tree, managers := s.managers.modify id fun m => { m with configured := true } } with hu
  obtain ⟨written, hlog⟩ := log_run m.announcement_allowed (runtimeLogger ++ ".logging") Level.info.number
    (.text "FireflyFFI logging system initialized") u
  refine ⟨u, _, hlog, hlog, ⟨⟨?_, rfl, ?_, fun _ hr => hr, fun _ _ hh => absurd hh List.not_mem_nil,
    fun _ hr => .inl hr, Nat.le_refl _⟩, fun _ => rfl, fun _ _ => rfl, fun _ hr => .inl hr, ?_⟩,
    inForce_settled m s.tree, rfl, rfl⟩
  · rw [hu, List.getElem?_modify_eq, hm]
    rfl
  · intro name
    rw [hu, get_settled, List.append_nil]
    split_ifs <;> rfl
  · intro name hname
    rw [hu, get_settled, if_neg hname]

theorem setup_configured (hm : s.managers[id]? = some m) (h : m.configured = true) (sink : Sink) :
    setup id sink s = .ok () s := by
  unfold setup
  rw [LogAct.bind_of_ok (ofId_run hm), h]
  rfl

theorem setup_run (hm : s.managers[id]? = some m) (h : m.configured = false) (sink : Sink) :
    setup id sink s = (do
      attachOwn id true sink
      match m.config.outputFile.value.bind named with
      | some path => attachFile id path >>= fun _ => complete id m
      | none => complete id m : LogAct Unit) (withOwn id m false sink s) := by
  unfold setup
  rw [LogAct.bind_of_ok (ofId_run hm), h]
  simp only [Bool.not_false, if_true, List.forIn_cons, List.forIn_nil, bind_pure_comp, bind_assoc]
  rw [LogAct.bind_of_ok (attachOwn_run hm false sink)]
  cases m.config.outputFile.value.bind named <;> rfl

/-- The kinds of the handlers for a log file, if there is to be one. -/
def fileKinds (m : LoggingManager) : List Bool := (m.config.outputFile.value.bind named).toList.map fun _ => true

/-- The log file, if there is to be one and it can be opened. -/
def fileSinks (m : LoggingManager) (files : Files) : List Sink :=
  match m.config.outputFile.value.bind named with
  | some path => match files.openAt path with | .ok (_, place, _) => [.file (Path.ofNames place)] | .error _ => []
  | none => []

theorem fileSinks_kinds {files : Files}
    (hopen : ∀ path, m.config.outputFile.value.bind named = some path → ∃ opened, files.openAt path = .ok opened) :
    (m.fileSinks files).map Sink.isFile = m.fileKinds := by
  unfold fileSinks fileKinds
  cases hpath : m.config.outputFile.value.bind named with
  | none => rfl
  | some path =>
    obtain ⟨⟨_, place, _⟩, hopened⟩ := hopen path hpath
    simp only [hopened]
    rfl

theorem opened_or_error (m : LoggingManager) (files : Files) :
    (∀ path, m.config.outputFile.value.bind named = some path → ∃ opened, files.openAt path = .ok opened)
      ∨ ∃ path e, m.config.outputFile.value.bind named = some path ∧ files.openAt path = .error e := by
  cases hpath : m.config.outputFile.value.bind named with
  | none => exact .inl nofun
  | some path =>
    cases hopen : files.openAt path with
    | ok opened =>
      left
      rintro _ ⟨⟩
      exact ⟨opened, hopen⟩
    | error e => exact .inr ⟨path, e, rfl, hopen⟩

/-- A setup that can open its log file comes to its end, with a handler for the stream and one for the file, and says
so when they are in force. -/
theorem setup_of_opened (hm : s.managers[id]? = some m) (h : m.configured = false) (sink : Sink)
    (hopen : ∀ path, m.config.outputFile.value.bind named = some path → ∃ opened, s.files.openAt path = .ok opened) :
    ∃ t m' added, setup id sink s = .ok () t ∧ m'.configured = true ∧ ∃ u, announce m u = .ok () t
      ∧ AttachesFor id s u m m' added (sink :: m.fileSinks s.files) ∧ InForce m u.tree ∧ Quiet s u := by
  obtain ⟨t₁, m₁, streams, hrun₁, hattaches₁, hconfigured₁, hfiles₁, hquiet₁⟩ := attachBoth_run hm s.files sink
  have hstart : setup id sink s = (match m.config.outputFile.value.bind named with
      | some path => attachFile id path >>= fun _ => complete id m
      | none => complete id m : LogAct Unit) t₁ := by
    rw [setup_run hm h]
    exact LogAct.bind_of_ok hrun₁
  rw [hstart]
  unfold fileSinks
  cases hpath : m.config.outputFile.value.bind named with
  | none =>
    obtain ⟨u, t, hrun, hsaid, hattaches, hforce, hquiet⟩ := complete_run (m := m) hattaches₁.manager
    exact ⟨t, _, _, hrun, rfl, u, hsaid, hattaches₁.trans hattaches, hforce, hquiet₁.trans hquiet⟩
  | some path =>
    obtain ⟨⟨files, place, found⟩, hopened⟩ := hopen path hpath
    simp only [hopened]
    rw [← hfiles₁] at hopened
    obtain ⟨t₂, m₂, added, hrun₂, hattaches₂, hconfigured₂, hquiet₂⟩ := attachFile_of_ok hattaches₁.manager hopened
    obtain ⟨u, t, hrun, hsaid, hattaches, hforce, hquiet⟩ := complete_run (m := m) hattaches₂.manager
    exact ⟨t, _, _, (LogAct.bind_of_ok hrun₂).trans hrun, rfl, u, hsaid, (hattaches₁.trans hattaches₂).trans hattaches,
      hforce, (hquiet₁.trans hquiet₂).trans hquiet⟩

/-- A setup that cannot open its log file fails, and leaves a handler for the stream on both loggers. -/
theorem setup_of_unopened {e : Failure} (hm : s.managers[id]? = some m) (h : m.configured = false) (sink : Sink)
    (hpath : m.config.outputFile.value.bind named = some path) (hopen : s.files.openAt path = .error e) :
    ∃ t m' added, setup id sink s = .error e t ∧ AttachesFor id s t m m' added [sink] ∧ m'.configured = false := by
  obtain ⟨t, m', added, hrun, hattaches, hconfigured, hfiles, -⟩ := attachBoth_run hm s.files sink
  rw [← hfiles] at hopen
  refine ⟨t, m', added, ?_, hattaches, hconfigured.trans h⟩
  rw [setup_run hm h, hpath]
  exact (LogAct.bind_of_ok hrun).trans (LogAct.bind_of_error (attachFile_of_error hopen))

/-! ### Shutting down -/

/-- A shutdown takes from the loggers what the manager has recorded. -/
theorem shutdown_run (hm : s.managers[id]? = some m) : ∃ t, shutdown id s = .ok () t
    ∧ t.managers[id]? = some { m with handlers := [], configured := false } ∧ t.handlersMade = s.handlersMade
    ∧ t.tree = m.handlers.foldl (fun t r => t.update r.1 fun l => { l.detach r.2 with propagates := true }) s.tree := by
  have hloop : ∀ (taken : List (String × Nat)) (s : Logging),
      (forIn taken PUnit.unit fun h _ => do
        changeLogger h.1 fun l => { l.detach h.2 with propagates := true }
        pure (.yield PUnit.unit) : LogAct PUnit) s
      = .ok .unit { s with
          tree := taken.foldl (fun t r => t.update r.1 fun l => { l.detach r.2 with propagates := true }) s.tree } := by
    intro taken
    induction taken with
    | nil => exact fun s => rfl
    | cons r rest ih =>
      intro s
      rw [List.forIn_cons]
      exact ih _
  unfold shutdown
  rw [LogAct.bind_of_ok (ofId_run hm)]
  refine ⟨_, LogAct.bind_of_ok (hloop _ _), ?_, rfl, rfl⟩
  change (s.managers.modify id _)[id]? = _
  rw [List.getElem?_modify_eq, hm]
  rfl

end LoggingManager

end ForeignBridge
