import ForeignBridge.Proofs.Log.Setup

/-!
The handlers of a manager along any requests. A setup that fails leaves its handlers for the stream behind, and the
next one attaches them anew; a shutdown takes all of them away. Nobody else's handlers are touched.
-/

namespace ForeignBridge

namespace LoggingManager

open Logging

variable {id : Nat} {m m' : LoggingManager} {s t : Logging} {own : String → List Handler}

/-- What is asked of a manager. A setup is given a stream or writes to the standard output. -/
inductive Request
  | setup (given : Bool)
  | logger (name : String)
  | shutdown
deriving DecidableEq, Repr

def Request.perform (id : Nat) : Request → LogAct Unit
  | .setup given => LoggingManager.setup id (if given then .stream else .standard)
  | .logger name => do let _ ← loggerNamed id name
  | .shutdown => LoggingManager.shutdown id

/-- A state of logging, with how many requests have failed since the last shutdown. -/
structure Course where
  state : Logging
  failed : Nat

/-- Serves a request. The files may have become other ones before it. -/
def Course.serve (id : Nat) (c : Course) (x : Files × Request) : Course :=
  match x.2.perform id { c.state with files := x.1 } with
  | .ok () t => ⟨t, if x.2 = .shutdown then 0 else c.failed⟩
  | .error _ t => ⟨t, c.failed + 1⟩

/-- The kinds of handlers on each of a manager's loggers. -/
def kindsAfter (m : LoggingManager) (failed : Nat) (configured : Bool) : List Bool :=
  List.replicate failed false ++ if configured then false :: m.fileKinds else []

/-- What holds of a manager in a course from a state. -/
structure Follows (id : Nat) (s : Logging) (m : LoggingManager) (c : Course) (m' : LoggingManager)
    (own : String → List Handler) : Prop where
  attaches : Attaches id s c.state m m' own
  kinds : Kinds own (m.kindsAfter c.failed m'.configured)

/-- No logger has a handler with a number that is yet to be given out. -/
def Numbered (s : Logging) : Prop := ∀ name, ∀ h ∈ (s.tree.get name).handlers, h.id < s.handlersMade

theorem numbered_new (files : Files) (now : Double) : Numbered (Logging.new files now) := by
  intro name h hh
  have hnone : (LogTree.new.get name).handlers = [] := by
    unfold LogTree.get
    split_ifs <;> rfl
  change h ∈ (LogTree.new.get name).handlers at hh
  rw [hnone] at hh
  cases hh

theorem Numbered.attach (hs : Numbered s) {name : String} {sink : Sink} {level : Int} {layout : LineLayout} {number : Nat}
    (hrun : Logging.attach name sink level layout s = .ok number t) : Numbered t := by
  cases hrun
  intro other h hh
  have hnew : h ∈ ((s.tree.get name).attach ⟨s.handlersMade, sink, level, layout⟩).handlers → h.id < s.handlersMade + 1 := by
    intro hh
    rcases List.mem_append.mp hh with hold | hnew
    · exact Nat.lt_succ_of_lt (hs name h hold)
    · rw [List.mem_singleton.mp hnew]
      exact Nat.lt_succ_self _
  have hold : h ∈ (s.tree.get other).handlers → h.id < s.handlersMade + 1 := fun hh => Nat.lt_succ_of_lt (hs other h hh)
  change h ∈ ((s.tree.update name fun l => l.attach ⟨s.handlersMade, sink, level, layout⟩).get other).handlers at hh
  cases hroot : LogTree.isRoot name with
  | true =>
    rw [s.tree.get_update_root hroot] at hh
    split_ifs at hh with hother
    · exact hnew hh
    · exact hold hh
  | false =>
    rw [s.tree.get_update hroot] at hh
    split_ifs at hh with hother
    · exact hnew hh
    · exact hold hh

/-! ### One request -/

theorem fileKinds_congr (h : m'.config = m.config) : m'.fileKinds = m.fileKinds := by
  rw [fileKinds, fileKinds, h]

/-- A setup does nothing, or attaches all handlers, or fails and attaches those for the stream. -/
theorem follows_setup {c : Course} {sink : Sink} (h : Follows id s m c m' own) (hsink : sink.isFile = false)
    (files : Files) :
    (∃ t m'' own', setup id sink { c.state with files := files } = .ok () t ∧ Follows id s m ⟨t, c.failed⟩ m'' own')
      ∨ ∃ e t m'' own', setup id sink { c.state with files := files } = .error e t
        ∧ Follows id s m ⟨t, c.failed + 1⟩ m'' own' := by
  have hattaches := h.attaches.withFiles files
  have hkinds := h.kinds
  cases hconfigured : m'.configured with
  | true =>
    left
    exact ⟨_, m', own, setup_configured hattaches.manager hconfigured sink, hattaches, hkinds⟩
  | false =>
    have hsame := hattaches.config
    simp only [hconfigured, kindsAfter, Bool.false_eq_true, if_false, List.append_nil] at hkinds
    rcases opened_or_error m' files with hopen | ⟨path, e, hpath, he⟩
    · left
      obtain ⟨t, m'', added, hrun, hdone, u, hsaid, hattached, -, -⟩ :=
        setup_of_opened hattaches.manager hconfigured sink hopen
      have hadded := hattached.touched (announce_touches hsaid)
      have hnew := hadded.kinds
      rw [List.map_cons, hsink, fileSinks_kinds hopen] at hnew
      refine ⟨t, m'', _, hrun, hattaches.trans hadded.toAttaches, ?_⟩
      rw [kindsAfter, hdone, if_pos rfl, ← fileKinds_congr hsame]
      exact hkinds.append hnew
    · right
      obtain ⟨t, m'', added, hrun, hadded, hdone⟩ := setup_of_unopened hattaches.manager hconfigured sink hpath he
      have hnew := hadded.kinds
      rw [List.map_singleton, hsink] at hnew
      refine ⟨e, t, m'', _, hrun, hattaches.trans hadded.toAttaches, ?_⟩
      rw [kindsAfter, hdone, List.replicate_succ', List.append_assoc]
      simpa using hkinds.append hnew

/-- Loggers that are asked for have the handlers that they had. -/
theorem follows_getLogger {c : Course} (h : Follows id s m c m' own) (name : String) :
    Follows id s m { c with state := { c.state with tree := c.state.tree.withLogger name } } m' own where
  attaches := { h.attaches with
    handlers := fun other => by
      rw [← h.attaches.handlers other]
      exact congrArg Logger.handlers (c.state.tree.get_withLogger name other) }
  kinds := h.kinds

/-- A shutdown takes away all that a manager has attached since it had nothing on record, and leaves loggers alone
that it has not on record. -/
theorem attaches_shutdown (hids : Numbered s) (hfresh : m.handlers = []) (h : Attaches id s t m m' own) :
    ∃ u, shutdown id t = .ok () u
      ∧ Attaches id s u m { m' with handlers := [], configured := false } (fun _ => [])
      ∧ ∀ name, (∀ r ∈ m'.handlers, r.1 ≠ name) → u.tree.get name = t.tree.get name := by
  obtain ⟨u, hrun, hmanager, hmade, htree⟩ := shutdown_run h.manager
  have hyoung : ∀ r ∈ m'.handlers, LogTree.isRoot r.1 = false ∧ s.handlersMade ≤ r.2 := by
    intro r hr
    rcases h.young r hr with hold | hnew
    · rw [hfresh] at hold
      cases hold
    · exact hnew
  have hroots : ∀ r ∈ m'.handlers, LogTree.isRoot r.1 = false := fun r hr => (hyoung r hr).1
  refine ⟨u, hrun, ⟨hmanager, h.config, ?_, ?_, nofun, nofun, ?_⟩, fun name hname => ?_⟩
  · intro name
    have hothers : ∀ a ∈ (s.tree.get name).handlers, (name, a.id) ∉ m'.handlers :=
      fun a ha hrecorded => absurd (hids name a ha) (Nat.not_lt.mpr (hyoung _ hrecorded).2)
    have hown : ∀ a ∈ own name, ¬ (name, a.id) ∉ m'.handlers := fun a ha hnot => hnot (h.recorded name a ha)
    rw [htree, LogTree.handlers_detached _ hroots, h.handlers, List.filter_append, List.append_nil,
      List.filter_eq_self.mpr (by simpa using hothers), List.filter_eq_nil_iff.mpr (by simpa using hown),
      List.append_nil]
  · rw [hfresh]
    exact nofun
  · rw [hmade]
    exact h.made
  · rw [htree, LogTree.get_detached _ hroots hname]

/-- A shutdown leaves the loggers with the handlers of others. -/
theorem follows_shutdown {c : Course} (hids : Numbered s) (hfresh : m.handlers = []) (h : Follows id s m c m' own)
    (files : Files) :
    ∃ t, shutdown id { c.state with files := files } = .ok () t
      ∧ Follows id s m ⟨t, 0⟩ { m' with handlers := [], configured := false } fun _ => [] := by
  obtain ⟨t, hrun, hattaches, -⟩ := attaches_shutdown hids hfresh (h.attaches.withFiles files)
  exact ⟨t, hrun, hattaches, fun _ => by simp [kindsAfter]⟩

theorem serve_of_ok {c : Course} {files : Files} {request : Request}
    (h : request.perform id { c.state with files := files } = .ok () t) :
    c.serve id (files, request) = ⟨t, if request = .shutdown then 0 else c.failed⟩ := by
  rw [Course.serve, h]

theorem serve_of_error {c : Course} {files : Files} {request : Request} {e : Failure}
    (h : request.perform id { c.state with files := files } = .error e t) :
    c.serve id (files, request) = ⟨t, c.failed + 1⟩ := by
  rw [Course.serve, h]

theorem follows_serve {c : Course} (hids : Numbered s) (hfresh : m.handlers = []) (h : Follows id s m c m' own)
    (files : Files) (request : Request) : ∃ m'' own', Follows id s m (c.serve id (files, request)) m'' own' := by
  cases request with
  | setup given =>
    have hsink : (if given then Sink.stream else Sink.standard).isFile = false := by cases given <;> rfl
    rcases follows_setup h hsink files with ⟨t, m'', own', hrun, hfollows⟩ | ⟨e, t, m'', own', hrun, hfollows⟩
    · have hsetup : (Request.setup given).perform id { c.state with files := files } = .ok () t := hrun
      refine ⟨m'', own', ?_⟩
      rw [serve_of_ok hsetup, if_neg nofun]
      exact hfollows
    · have hsetup : (Request.setup given).perform id { c.state with files := files } = .error e t := hrun
      refine ⟨m'', own', ?_⟩
      rw [serve_of_error hsetup]
      exact hfollows
  | logger name =>
    rcases follows_setup h (rfl : Sink.standard.isFile = false) files with
      ⟨t, m'', own', hrun, hfollows⟩ | ⟨e, t, m'', own', hrun, hfollows⟩
    · have hlogger : (Request.logger name).perform id { c.state with files := files }
          = .ok () { t with tree := t.tree.withLogger name } :=
        LogAct.bind_of_ok ((LogAct.bind_of_ok hrun).trans rfl)
      refine ⟨m'', own', ?_⟩
      rw [serve_of_ok hlogger, if_neg nofun]
      exact follows_getLogger hfollows name
    · have hlogger : (Request.logger name).perform id { c.state with files := files } = .error e t :=
        LogAct.bind_of_error (LogAct.bind_of_error hrun)
      refine ⟨m'', own', ?_⟩
      rw [serve_of_error hlogger]
      exact hfollows
  | shutdown =>
    obtain ⟨t, hrun, hfollows⟩ := follows_shutdown hids hfresh h files
    have hshutdown : Request.shutdown.perform id { c.state with files := files } = .ok () t := hrun
    rw [serve_of_ok hshutdown, if_pos rfl]
    exact ⟨_, _, hfollows⟩

/-! ### Any number of requests -/

theorem follows_foldl (hids : Numbered s) (hfresh : m.handlers = []) (requests : List (Files × Request)) :
    ∀ {c : Course} {m' : LoggingManager} {own : String → List Handler}, Follows id s m c m' own →
      ∃ m'' own', Follows id s m (requests.foldl (Course.serve id) c) m'' own' := by
  induction requests with
  | nil => exact fun h => ⟨_, _, h⟩
  | cons x rest ih =>
    intro c m' own h
    obtain ⟨m'', own', hstep⟩ := follows_serve hids hfresh h x.1 x.2
    exact ih hstep

/-- Whatever is asked of a manager, and whenever its log file cannot be opened: on each of its two loggers it has one
handler for the stream for every setup that has failed since the last shutdown, and if it is set up, another one, and
one for the log file if there is to be one. On other loggers it has none, the handlers of others are all there, and a
shutdown leaves only those. -/
theorem handlers_of_requests (config : Option LoggingConfig) (s : Logging) (hids : Numbered s)
    (requests : List (Files × Request)) :
    ∃ id t, create config s = .ok id t ∧ ∃ (m : LoggingManager) (own : String → List Handler),
      let c := requests.foldl (Course.serve id) ⟨t, 0⟩
      c.state.managers[id]? = some m ∧ m.config = (new config).config
        ∧ (∀ name, (c.state.tree.get name).handlers = (s.tree.get name).handlers ++ own name)
        ∧ (∀ name, (own name).map (fun h => h.sink.isFile) =
            if name ∈ ownLoggers then
              List.replicate c.failed false ++ if m.configured then false :: (new config).fileKinds else []
            else [])
        ∧ ∀ files name, ((c.serve id (files, .shutdown)).state.tree.get name).handlers = (s.tree.get name).handlers := by
  set t : Logging := { s with managers := s.managers ++ [new config] } with ht
  have hmanager : t.managers[s.managers.length]? = some (new config) := by
    rw [ht, List.getElem?_append_right (Nat.le_refl _), Nat.sub_self]
    rfl
  have hstart : Follows s.managers.length t (new config) ⟨t, 0⟩ (new config) fun _ => [] :=
    ⟨.refl hmanager, fun _ => by simp [kindsAfter, new]⟩
  have hids' : Numbered t := hids
  obtain ⟨m, own, hfollows⟩ := follows_foldl hids' rfl requests hstart
  refine ⟨s.managers.length, t, rfl, m, own, hfollows.attaches.manager, hfollows.attaches.config,
    hfollows.attaches.handlers, hfollows.kinds, ?_⟩
  intro files name
  obtain ⟨u, hrun, hdown⟩ := follows_shutdown hids' rfl hfollows files
  have hshutdown : Request.shutdown.perform s.managers.length _ = .ok () u := hrun
  rw [serve_of_ok hshutdown, hdown.attaches.handlers, List.append_nil]

/-- Logging in which the runtime's logger has a handler of somebody else. -/
def harbour : Logging :=
  { Logging.new (.ofTexts []) default with
    tree := LogTree.new.update runtimeLogger fun l => l.attach ⟨0, .stream, 10, .text⟩
    handlersMade := 1 }

def pierConfig : LoggingConfig := { LoggingConfig.byDefault with outputFile := .set (some "pier/app.log") }

/-- A setup while there is a file in the place of the directory for the log file. -/
def pierBlocked : Files × Request := (.ofTexts [("pier", "boards")], .setup true)

def pierFree : Files × Request := (.ofTexts [], .setup true)

theorem numbered_harbour : Numbered harbour :=
  (numbered_new (.ofTexts []) default).attach (rfl : Logging.attach runtimeLogger .stream 10 .text _ = .ok 0 harbour)

theorem pier_retried {id : Nat} {t : Logging} (h : create (some pierConfig) harbour = .ok id t) :
    let c := [pierBlocked, pierFree].foldl (Course.serve id) ⟨t, 0⟩
    c.failed = 1 ∧ c.state.managers[id]?.map (·.configured) = some true := by
  cases h
  decide +kernel

theorem handlers_of_requests_pier :
    Numbered harbour ∧ ∃ id t, create (some pierConfig) harbour = .ok id t ∧ ∃ own : String → List Handler,
      let c := [pierBlocked, pierFree].foldl (Course.serve id) ⟨t, 0⟩
      (∀ name, (c.state.tree.get name).handlers = (harbour.tree.get name).handlers ++ own name)
        ∧ (own runtimeLogger).map (fun h => h.sink.isFile) = [false, false, true] := by
  refine ⟨numbered_harbour, ?_⟩
  obtain ⟨id, t, hcreated, m, own, hmanager, -, hhandlers, hkinds, -⟩ :=
    handlers_of_requests (some pierConfig) harbour numbered_harbour [pierBlocked, pierFree]
  obtain ⟨hfailed, hconfigured⟩ := pier_retried hcreated
  rw [hmanager, Option.map_some, Option.some.injEq] at hconfigured
  refine ⟨id, t, hcreated, own, hhandlers, ?_⟩
  rw [hkinds, if_pos (by decide), hfailed, hconfigured]
  rfl

/-- A setup that failed leaves its handlers on both loggers, and the next one attaches others of their kind. -/
theorem stream_attached_twice :
    let start : Course := ⟨{ Logging.new (.ofTexts []) default with managers := [new (some pierConfig)] }, 0⟩
    let blocked := start.serve 0 pierBlocked
    let retried := blocked.serve 0 pierFree
    (blocked.state.managers[0]?.map (·.configured) = some false
        ∧ ∀ name ∈ ownLoggers, (blocked.state.tree.get name).handlers.map (·.sink) = [.stream])
      ∧ retried.state.managers[0]?.map (·.configured) = some true
        ∧ ∀ name ∈ ownLoggers,
          (retried.state.tree.get name).handlers.map (·.sink) = [.stream, .stream, .file "pier/app.log"] := by
  decide +kernel

end LoggingManager

end ForeignBridge
