import ForeignBridge.Proofs.Log.Handlers
import ForeignBridge.Proofs.Log.Members

/-!
Where records go. While a manager is set up and nobody else attends to its loggers, a record of theirs is written once
for each of its sinks, or, below its level, not at all, and none of it goes up to the root. What a failed setup has
left behind writes each record once more.
-/

namespace ForeignBridge

namespace LoggingManager

open Logging LogTree

variable {id : Nat} {m m' : LoggingManager} {s t u : Logging} {own : String → List Handler} {sinks : List Sink}
  {name : String} {level : Int} {said : Value} {extra : List (String × Value)}

/-- Nobody else attends to the loggers of managers: neither those nor the ones below them have handlers, and those
below have no settings of their own. -/
structure Unattended (s : Logging) : Prop where
  bare : ∀ callbacks, (s.tree.get (loggerOf callbacks)).handlers = []
  below : ∀ rest, runtimeLogger ++ "." ++ rest ∉ ownLoggers → s.tree.get (runtimeLogger ++ "." ++ rest) = .fresh

/-! ### One record -/

/-- What becomes of a record. If it is of a manager's level or above and has a line in the layout for callbacks or in
the other one, that is written once for each of certain sinks; else nothing is written. -/
structure Delivered (m : LoggingManager) (sinks : List Sink) (callbacks : Bool) (name : String) (level : Int)
    (said : Value) (extra : List (String × Value)) (s t : Logging) : Prop where
  low : level < m.level → t.written = s.written
  lineless : ∀ f, (m.layout callbacks).line (.plain s.now name level said extra) = .error f → t.written = s.written
  once : m.level ≤ level → ∀ line, (m.layout callbacks).line (.plain s.now name level said extra) = .ok line →
    t.written = s.written ++ sinks.map fun sink => (sink, line)

theorem Delivered.congr {callbacks : Bool} {s' t' : Logging} (h : Delivered m sinks callbacks name level said extra s t)
    (hs : Quiet s' s) (ht : t'.written = t.written) : Delivered m sinks callbacks name level said extra s' t' := by
  obtain ⟨hwritten, hnow⟩ := hs
  refine ⟨?_, ?_, ?_⟩
  · rw [← hwritten, ht]
    exact h.low
  · rw [← hwritten, ← hnow, ht]
    exact h.lineless
  · rw [← hwritten, ← hnow, ht]
    exact h.once

theorem level_pos (m : LoggingManager) : 0 < m.level := by
  unfold LoggingManager.level
  cases m.config.level.value <;> decide

/-- The way up from a logger leads to one of the two loggers, by what the logger is under. -/
theorem leads (h : AttachesFor id s t m m' own sinks) (hs : Unattended s) (hu : Under t.tree runtimeLogger name) :
    ∃ callbacks, (callbacks = true ↔ Under t.tree callbackLogger name)
      ∧ (t.tree.withLogger name).LeadsTo name (loggerOf callbacks) := by
  have hfresh : ∀ n, Under (t.tree.withLogger name) runtimeLogger n → n ≠ runtimeLogger → n ≠ callbackLogger →
      (t.tree.withLogger name).get n = .fresh := by
    intro n hn hruntime hcallback
    have hother : n ∉ ownLoggers := by simp [ownLoggers, hruntime, hcallback]
    rw [t.tree.get_withLogger, h.others n hother]
    rcases hn.split with rfl | ⟨rest, rfl⟩
    · exact absurd rfl hruntime
    · exact hs.below rest hother
  -- to ask for the logger makes it known, but no logger above it
  have hunder : Under (t.tree.withLogger name) runtimeLogger name := Under.withLogger_iff.mpr hu
  rcases hunder.leadsTo (by decide) (by decide) hfresh with ⟨hin, hleads⟩ | ⟨hout, hleads⟩
  · exact ⟨true, iff_of_true rfl (Under.withLogger_iff.mp hin), hleads⟩
  · exact ⟨false, iff_of_false Bool.false_ne_true (fun hin => hout (Under.withLogger_iff.mpr hin)), hleads⟩

/-- Handlers for certain sinks all write the line that their layout has. -/
theorem writes_of_ok (h : AttachesFor id s t m m' own sinks) {callbacks : Bool} {r : LogRecord} {line : LogLine}
    (hline : (m.layout callbacks).line r = .ok line) :
    (own (loggerOf callbacks)).filterMap (Handler.write r) = sinks.map fun sink => (sink, line) := by
  have hwrite : ∀ a ∈ own (loggerOf callbacks), a.write r = some (a.sink, line) := by
    intro a ha
    simp only [Handler.write, (h.configured_alike ha).2, hline]
  rw [List.filterMap_congr hwrite, ← h.sinks_eq callbacks, List.map_map, ← List.filterMap_eq_map]
  rfl

theorem writes_of_error (h : AttachesFor id s t m m' own sinks) {callbacks : Bool} {r : LogRecord} {f : Failure}
    (hf : (m.layout callbacks).line r = .error f) : (own (loggerOf callbacks)).filterMap (Handler.write r) = [] := by
  rw [List.filterMap_eq_nil_iff]
  intro a ha
  simp only [Handler.write, (h.configured_alike ha).2, hf]

section Reached

variable {callbacks : Bool} (hforce : InForce m t.tree) (hleads : (t.tree.withLogger name).LeadsTo name (loggerOf callbacks))

include hforce hleads

theorem enabled_iff (level : Int) : (t.tree.withLogger name).enabled name level = true ↔ m.level ≤ level := by
  have hlevel := (hforce.withLogger name callbacks).1
  have hpos := m.level_pos
  rw [enabled, hleads.firstLevel (by omega), hlevel, Bool.and_eq_true, decide_eq_true_iff, decide_eq_true_iff]
  omega

/-- A record reaches the manager's handlers, and all of them write it that write records of its level. -/
theorem receivers_eq (h : AttachesFor id s t m m' own sinks) (hs : Unattended s) (hlevel : m.level ≤ level) :
    (t.tree.withLogger name).receivers name level = own (loggerOf callbacks) := by
  have hreached : reached ((t.tree.withLogger name).chain name) = own (loggerOf callbacks) := by
    rw [hleads.reached (hforce.withLogger name callbacks).2.1, t.tree.get_withLogger, h.handlers, hs.bare,
      List.nil_append]
  rw [receivers, hreached, List.filter_eq_self]
  intro a ha
  rw [(h.configured_alike ha).1]
  exact decide_eq_true hlevel

end Reached

/-- A record of a logger under the runtime's reaches just the handlers of the callbacks' logger, if its own is under
that too, or those of the runtime's. -/
theorem log_delivered (level : Int) (said : Value) (h : AttachesFor id s t m m' own sinks) (hs : Unattended s)
    (hforce : InForce m t.tree) (hu : Under t.tree runtimeLogger name)
    (hallowed : ∀ e ∈ extra, e.1 ∉ LogRecord.reservedNames) :
    ∃ callbacks u, (callbacks = true ↔ Under t.tree callbackLogger name)
      ∧ log name level said extra t = .ok () u
      ∧ reached (u.tree.chain name) = (u.tree.get (loggerOf callbacks)).handlers
      ∧ Delivered m sinks callbacks name level said extra t u := by
  obtain ⟨callbacks, hcallbacks, hleads⟩ := leads h hs hu
  have hname : nameOf name = name := by rw [nameOf, hu.not_root (by decide), if_neg Bool.false_ne_true]
  have hlog := log_eq hallowed name level said t
  simp only [enabled_iff hforce hleads, hname] at hlog
  refine ⟨callbacks, _, hcallbacks, hlog, ?_, fun hlow => ?_, fun f hf => ?_, fun hhigh line hline => ?_⟩
  · exact hleads.reached (hforce.withLogger name callbacks).2.1
  · simp only [if_neg (Int.not_le.mpr hlow), List.append_nil]
  · by_cases hhigh : m.level ≤ level
    · simp only [if_pos hhigh, receivers_eq hforce hleads h hs hhigh, writes_of_error h hf, List.append_nil]
    · simp only [if_neg hhigh, List.append_nil]
  · simp only [if_pos hhigh, receivers_eq hforce hleads h hs hhigh, writes_of_ok h hline]

/-! ### One event -/

/-- What happens to logging: a request to a manager, with the files as they are then, or a message at a time. -/
inductive Event
  | request (files : Files) (r : Request)
  | message (now : Double) (name : String) (level : Int) (said : Value) (extra : List (String × Value))

/-- The stream that a request is to set logging up for. -/
def Request.sink? : Request → Option Sink
  | .setup given => some (if given then .stream else .standard)
  | .logger _ => some .standard
  | .shutdown => none

/-- A state of logging, with the streams of the setups that have failed since the last shutdown, and with the sinks of
the one in force. -/
structure Coverage where
  state : Logging
  failed : List Sink
  sinks : List Sink

def Coverage.serve (id : Nat) (m : LoggingManager) (c : Coverage) : Event → Coverage
  | .request files r =>
    match r.sink?, r.perform id { c.state with files := files } with
    | none, .ok () t | none, .error _ t => ⟨t, [], []⟩
    | some sink, .ok () t => ⟨t, c.failed, if c.sinks = [] then sink :: m.fileSinks files else c.sinks⟩
    | some sink, .error _ t => ⟨t, c.failed ++ [sink], c.sinks⟩
  | .message now name level said extra =>
    match log name level said extra { c.state with now := now } with
    | .ok () t | .error _ t => { c with state := t }

/-- What holds of a manager after events: its handlers are for the streams of failed setups and for the sinks in
force, and its loggers are in force if it is set up. -/
structure Covered (id : Nat) (s : Logging) (m : LoggingManager) (c : Coverage) (m' : LoggingManager)
    (own : String → List Handler) : Prop where
  attaches : AttachesFor id s c.state m m' own (c.failed ++ c.sinks)
  idle : m'.configured = false → c.sinks = []
  inForce : m'.configured = true → InForce m c.state.tree
  kinds : m'.configured = true → c.sinks.map Sink.isFile = false :: m.fileKinds

variable {c : Coverage} {files : Files} {sink : Sink}

/-- The record that tells of a setup is delivered. -/
def Announced (m : LoggingManager) (sinks : List Sink) (s t : Logging) : Prop :=
  Delivered m sinks false (runtimeLogger ++ ".logging") Level.info.number
    (.text "FireflyFFI logging system initialized") m.announcement s t

theorem announce_delivered (h : AttachesFor id s t m m' own sinks) (hs : Unattended s) (hforce : InForce m t.tree)
    (hrun : announce m t = .ok () u) : Announced m sinks t u := by
  have hu : Under t.tree runtimeLogger (runtimeLogger ++ ".logging") :=
    .of_split (by decide) (hforce false).2.2 "logging" (by decide)
  obtain ⟨callbacks, v, hcallbacks, hlog, -, hdelivered⟩ :=
    log_delivered Level.info.number (.text "FireflyFFI logging system initialized") h hs hforce hu
      m.announcement_allowed
  cases hlog.symm.trans hrun
  cases callbacks with
  | false => exact hdelivered
  | true =>
    have hlength := (hcallbacks.mp rfl).length_le
    exact absurd hlength (by decide)

/-- What a manager does depends only on its configuration. -/
theorem config_congr (h : m'.config = m.config) : m'.fileSinks = m.fileSinks ∧ m'.fileKinds = m.fileKinds
    ∧ announce m' = announce m ∧ InForce m' = InForce m := by
  obtain ⟨config, _, _⟩ := m
  obtain ⟨config', _, _⟩ := m'
  obtain rfl : config' = config := h
  exact ⟨rfl, rfl, rfl, rfl⟩

/-- A setup that can open its log file comes in force and is announced. -/
theorem Covered.opened (h : Covered id s m c m' own) (hs : Unattended s) (hc : m'.configured = false)
    (hsink : sink.isFile = false)
    (hopen : ∀ path, m'.config.outputFile.value.bind named = some path → ∃ opened, files.openAt path = .ok opened) :
    ∃ t m'' own', setup id sink { c.state with files := files } = .ok () t
      ∧ Covered id s m ⟨t, c.failed, sink :: m.fileSinks files⟩ m'' own'
      ∧ Announced m (c.failed ++ sink :: m.fileSinks files) c.state t := by
  have hattaches := h.attaches.withFiles files
  rw [h.idle hc, List.append_nil] at hattaches
  obtain ⟨hfileSinks, hfileKinds, hannounce, hinForce⟩ := config_congr h.attaches.config
  obtain ⟨t, m'', added, hrun, hdone, u, hsaid, hadded, hforce, hquiet⟩ :=
    setup_of_opened hattaches.manager hc sink hopen
  -- the loggers are in force before the setup is announced, so its record is one of theirs
  have hall := hattaches.trans hadded
  have hkinds := fileSinks_kinds hopen
  rw [hannounce] at hsaid
  rw [hinForce] at hforce
  rw [hfileSinks] at hall
  rw [hfileSinks, hfileKinds] at hkinds
  have htouches := announce_touches hsaid
  have hcovered : Covered id s m ⟨t, c.failed, sink :: m.fileSinks files⟩ m'' fun name => own name ++ added name := by
    refine ⟨hall.touched htouches, fun hnot => ?_, fun _ => hforce.touched htouches, fun _ => ?_⟩
    · rw [hdone] at hnot
      cases hnot
    · rw [List.map_cons, hsink, hkinds]
  exact ⟨t, m'', _, hrun, hcovered, (announce_delivered hall hs hforce hsaid).congr hquiet rfl⟩

/-- A setup that cannot open its log file fails, and leaves its stream. -/
theorem Covered.unopened {e : Failure} {path : String} (h : Covered id s m c m' own) (hc : m'.configured = false)
    (sink : Sink) (hpath : m'.config.outputFile.value.bind named = some path) (he : files.openAt path = .error e) :
    ∃ t m'' own', setup id sink { c.state with files := files } = .error e t
      ∧ Covered id s m ⟨t, c.failed ++ [sink], []⟩ m'' own' := by
  have hattaches := h.attaches.withFiles files
  rw [h.idle hc, List.append_nil] at hattaches
  obtain ⟨t, m'', added, hrun, hadded, hdone⟩ := setup_of_unopened hattaches.manager hc sink hpath he
  have hcovered : Covered id s m ⟨t, c.failed ++ [sink], []⟩ m'' fun name => own name ++ added name := by
    refine ⟨?_, fun _ => rfl, ?_, ?_⟩
    · rw [List.append_nil]
      exact hattaches.trans hadded
    · rw [hdone]
      nofun
    · rw [hdone]
      nofun
  exact ⟨t, m'', _, hrun, hcovered⟩

/-- A setup does nothing if one is in force, or comes in force and is announced, or fails. -/
theorem Covered.setup (h : Covered id s m c m' own) (hs : Unattended s) (hsink : sink.isFile = false) (files : Files) :
    (∃ t m'' own', setup id sink { c.state with files := files } = .ok () t
      ∧ Covered id s m ⟨t, c.failed, if c.sinks = [] then sink :: m.fileSinks files else c.sinks⟩ m'' own'
      ∧ (m'.configured = false → Announced m (c.failed ++ sink :: m.fileSinks files) c.state t))
    ∨ ∃ e t m'' own', setup id sink { c.state with files := files } = .error e t
      ∧ Covered id s m ⟨t, c.failed ++ [sink], c.sinks⟩ m'' own' := by
  cases hc : m'.configured with
  | true =>
    left
    have hattaches := h.attaches.withFiles files
    have hsome : c.sinks ≠ [] := by
      intro hnone
      have hkinds := h.kinds hc
      rw [hnone] at hkinds
      cases hkinds
    refine ⟨_, m', own, setup_configured hattaches.manager hc sink, ?_, nofun⟩
    rw [if_neg hsome]
    exact ⟨hattaches, h.idle, h.inForce, h.kinds⟩
  | false =>
    rw [h.idle hc, if_pos rfl]
    rcases opened_or_error m' files with hopen | ⟨path, e, hpath, he⟩
    · obtain ⟨t, m'', own', hrun, hcovered, hannounced⟩ := h.opened hs hc hsink hopen
      exact .inl ⟨t, m'', own', hrun, hcovered, fun _ => hannounced⟩
    · obtain ⟨t, m'', own', hrun, hcovered⟩ := h.unopened hc sink hpath he
      exact .inr ⟨e, t, m'', own', hrun, hcovered⟩

theorem Covered.touched (h : Covered id s m c m' own) (ht : Touches name c.state t) :
    Covered id s m { c with state := t } m' own :=
  ⟨h.attaches.touched ht, h.idle, fun hc => (h.inForce hc).touched ht, h.kinds⟩

theorem Covered.withClock (h : Covered id s m c m' own) (now : Double) :
    Covered id s m { c with state := { c.state with now := now } } m' own :=
  ⟨{ h.attaches with }, h.idle, h.inForce, h.kinds⟩

theorem Covered.message (h : Covered id s m c m' own) (now : Double) (name : String) (level : Int) (said : Value)
    (extra : List (String × Value)) : Covered id s m (c.serve id m (.message now name level said extra)) m' own := by
  rcases log_touches name level said extra { c.state with now := now } with ⟨t, hrun, ht⟩ | ⟨e, t, hrun, ht⟩
  · simp only [Coverage.serve, hrun]
    exact (h.withClock now).touched ht
  · simp only [Coverage.serve, hrun]
    exact (h.withClock now).touched ht

theorem Covered.shutdown (h : Covered id s m c m' own) (hids : Numbered s) (hfresh : m.handlers = []) (files : Files) :
    ∃ m'' own', Covered id s m (c.serve id m (.request files .shutdown)) m'' own' := by
  have hattaches := h.attaches.withFiles files
  obtain ⟨t, hrun, hdown, hkept⟩ := attaches_shutdown hids hfresh hattaches.toAttaches
  have hperform : Request.shutdown.perform id { c.state with files := files } = .ok () t := hrun
  have hothers : ∀ n ∉ ownLoggers, t.tree.get n = s.tree.get n := by
    intro n hn
    have hnot : ∀ r ∈ m'.handlers, r.1 ≠ n := by
      rintro r hr rfl
      rcases h.attaches.places r hr with hold | hplace
      · rw [hfresh] at hold
        cases hold
      · exact hn hplace
    rw [hkept n hnot]
    exact h.attaches.others n hn
  have hserve : c.serve id m (.request files .shutdown) = ⟨t, [], []⟩ := by
    simp only [Coverage.serve, Request.sink?, hperform]
  rw [hserve]
  exact ⟨_, _, ⟨hdown, fun _ => rfl, fun _ _ => rfl, nofun, hothers⟩, fun _ => rfl, nofun, nofun⟩

/-- A request that sets logging up does nothing else, but it may ask for a logger. -/
theorem perform_of_sink {r : Request} (hr : r.sink? = some sink) (id : Nat) (s : Logging) :
    (∀ t, LoggingManager.setup id sink s = .ok () t →
      ∃ u, r.perform id s = .ok () u ∧ u.written = t.written ∧ (u = t ∨ ∃ name, Touches name t u))
    ∧ ∀ e t, LoggingManager.setup id sink s = .error e t → r.perform id s = .error e t := by
  cases r with
  | setup given =>
    cases hr
    exact ⟨fun t hrun => ⟨t, hrun, rfl, .inl rfl⟩, fun e t hrun => hrun⟩
  | logger name =>
    cases hr
    refine ⟨fun t hrun => ?_, fun e t hrun => LogAct.bind_of_error (LogAct.bind_of_error hrun)⟩
    have hperform : (Request.logger name).perform id s = .ok () { t with tree := t.tree.withLogger name } :=
      LogAct.bind_of_ok ((LogAct.bind_of_ok hrun).trans rfl)
    exact ⟨_, hperform, rfl, .inr ⟨name, t.written, rfl⟩⟩
  | shutdown => cases hr

theorem Request.sink_not_file {r : Request} (hr : r.sink? = some sink) : sink.isFile = false := by
  cases r with
  | setup given =>
    cases hr
    cases given <;> rfl
  | logger name =>
    cases hr
    rfl
  | shutdown => cases hr

theorem Covered.request (h : Covered id s m c m' own) (hs : Unattended s) {r : Request} (hr : r.sink? = some sink)
    (files : Files) :
    (∃ m'' own', Covered id s m (c.serve id m (.request files r)) m'' own')
      ∧ (m'.configured = false → ∀ u, r.perform id { c.state with files := files } = .ok () u →
          Announced m (c.failed ++ sink :: m.fileSinks files) c.state u) := by
  obtain ⟨hok, herror⟩ := perform_of_sink hr id { c.state with files := files }
  rcases h.setup hs (Request.sink_not_file hr) files with
    ⟨t, m'', own', hrun, hcovered, hannounced⟩ | ⟨e, t, m'', own', hrun, hcovered⟩
  · obtain ⟨u, hperform, hwritten, hu⟩ := hok t hrun
    refine ⟨⟨m'', own', ?_⟩, fun hc v hv => ?_⟩
    · simp only [Coverage.serve, hr, hperform]
      rcases hu with rfl | ⟨name, ht⟩
      · exact hcovered
      · exact hcovered.touched ht
    · cases hperform.symm.trans hv
      exact (hannounced hc).congr ⟨rfl, rfl⟩ hwritten
  · have hperform := herror e t hrun
    refine ⟨⟨m'', own', ?_⟩, fun _ u hu => ?_⟩
    · simp only [Coverage.serve, hr, hperform]
      exact hcovered
    · cases hperform.symm.trans hu

theorem Covered.serve (h : Covered id s m c m' own) (hids : Numbered s) (hs : Unattended s) (hfresh : m.handlers = [])
    (x : Event) : ∃ m'' own', Covered id s m (c.serve id m x) m'' own' := by
  cases x with
  | request files r =>
    cases hr : r.sink? with
    | some sink => exact (h.request hs hr files).1
    | none =>
      cases r with
      | shutdown => exact h.shutdown hids hfresh files
      | setup given => cases hr
      | logger name => cases hr
  | message now name level said extra => exact ⟨m', own, h.message now name level said extra⟩

/-! ### Any events -/

theorem Covered.run (h : Covered id s m c m' own) (hids : Numbered s) (hs : Unattended s) (hfresh : m.handlers = [])
    (events : List Event) : ∃ m'' own', Covered id s m (events.foldl (Coverage.serve id m) c) m'' own' := by
  induction events generalizing c m' own with
  | nil => exact ⟨m', own, h⟩
  | cons x rest ih =>
    obtain ⟨m'', own', hstep⟩ := h.serve hids hs hfresh x
    exact ih hstep

end LoggingManager

end ForeignBridge
