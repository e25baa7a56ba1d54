import CecGateway.Proofs.Serving.Composition
import CecGateway.Proofs.Serving.Faults

/-!
# The life of a daemon

A daemon is started, and then serves one session after the other, each with its reader and its
writer at work side by side. Between sessions a life is just what serving the inputs in turn makes
of it. At every moment its health events are those of the start and one for each session that has
ended well, with the number of requests in its input (`health_over_a_lifetime`).
-/

namespace CecGateway

/-! ## How a start ends -/

/-- The first stage of a start that fails. -/
inductive Surroundings.FailsFirst (s : Surroundings) : StartError → Prop
  | load {reason : String} : s.load = .error reason → s.FailsFirst (.configuration reason)
  | validate {config : Config} {error : ConfigError} : s.load = .ok config →
      config.validate = .error error → s.FailsFirst (.invalidConfiguration error)
  | telemetry {config : Config} {reason : String} : s.load = .ok config →
      config.validate = .ok () → s.installLog config = .error reason →
        s.FailsFirst (.telemetry reason)

structure Surroundings.Configures (s : Surroundings) (config : Config) : Prop where
  loads : s.load = .ok config
  isValid : config.validate = .ok ()
  logs : s.installLog config = .ok ()

namespace Daemon

theorem configure_eq (s : Surroundings) :
    configure s = match s.load with
      | .error reason => .error (.configuration reason)
      | .ok config => match config.validate, s.installLog config with
        | .error error, _ => .error (.invalidConfiguration error)
        | .ok (), .error reason => .error (.telemetry reason)
        | .ok (), .ok () => .ok config := by
  unfold configure
  cases s.load with
  | error reason => rfl
  | ok config =>
      simp only [Except.mapError, bind, Except.bind]
      cases config.validate <;> cases s.installLog config <;> rfl

variable {s : Surroundings} {config : Config} {error : StartError}

theorem configure_eq_error_iff : configure s = .error error ↔ s.FailsFirst error := by
  rw [configure_eq]
  constructor
  · intro h
    split at h
    · next hload =>
        obtain rfl := Except.error.inj h
        exact .load hload
    · next hload =>
        split at h
        · next hvalid =>
            obtain rfl := Except.error.inj h
            exact .validate hload hvalid
        · next hvalid hlog =>
            obtain rfl := Except.error.inj h
            exact .telemetry hload hvalid hlog
        · simp at h
  · intro h
    cases h with
    | load hload => simp only [hload]
    | validate hload hvalid => simp only [hload, hvalid]
    | telemetry hload hvalid hlog => simp only [hload, hvalid, hlog]

theorem configures_of_configure (h : configure s = .ok config) : s.Configures config := by
  rw [configure_eq] at h
  split at h
  · simp at h
  · next hload =>
      split at h
      · simp at h
      · simp at h
      · next hvalid hlog =>
          obtain rfl := Except.ok.inj h
          exact ⟨hload, hvalid, hlog⟩

/-- The chain of a daemon as it starts. -/
theorem setUp_registered (defaultAdapter : String) (hardware : Hardware) :
    ((registered defaultAdapter).setUp hardware).1.handlerRanks = [.lgTelevision, .generic] ∧
      ((registered defaultAdapter).setUp hardware).2.1.isComplete = true :=
  ⟨rfl, rfl⟩

end Daemon

/-! ## Health events among the traces -/

namespace Trace

def health? : Trace → Option Health
  | health h => some h
  | _ => none

def healths (traces : List Trace) : List Health := traces.filterMap health?

@[simp]
theorem healths_append (traces later : List Trace) :
    healths (traces ++ later) = healths traces ++ healths later := List.filterMap_append

@[simp]
theorem healths_map_event (events : List Event) : healths (events.map .event) = [] := by
  rw [healths, List.filterMap_map, List.filterMap_eq_nil_iff]
  exact fun _ _ => rfl

@[simp]
theorem healths_map_health (reported : List Health) :
    healths (reported.map .health) = reported := by
  rw [healths, List.filterMap_map]
  exact List.filterMap_some

def asksForHardware : Trace → Bool
  | provided _ _ => true
  | _ => false

end Trace

/-- What is reported when a session ends. -/
def closing : Except SessionError Summary → List Health
  | .ok summary => [.sessionClosed summary.requests]
  | .error _ => []

theorem Daemon.serve_eq (d : Daemon) (source : Source) (sink : Sink) :
    let served := CecGateway.serve d.hardware d.controller source sink
    d.serve source sink = ({ d with controller := served.controller }, served,
      served.events.map .event ++ (closing served.result).map .health) := by
  intro served
  have hclosing : (match served.result with
      | .ok summary => [Trace.health (.sessionClosed summary.requests)]
      | .error _ => []) = (closing served.result).map .health := by
    cases served.result <;> rfl
  rw [← hclosing]
  rfl

theorem Summary.eq_of_conclude_ok {counted summary : Summary} {writeError? : Option SessionError}
    {readError? : Option String} (h : counted.conclude writeError? readError? = .ok summary) :
    readError? = none ∧ counted = summary := by
  unfold Summary.conclude at h
  split at h
  · simp at h
  · simp at h
  · simp at h
  · exact ⟨rfl, Except.ok.inj h⟩

/-- The requests in an input. -/
def Source.requests (source : Source) : List (List UInt8) := requestsIn source.bytes

/-- A session that ends well has read its whole input, and counted the lines that are not blank. -/
theorem requests_of_serve_ok {hardware : Hardware} {c : Controller} {source : Source} {sink : Sink}
    {summary : Summary} (hresult : (serve hardware c source sink).result = .ok summary) :
    source.error? = none ∧ summary.requests = source.requests.length := by
  obtain ⟨hread, rfl⟩ := Summary.eq_of_conclude_ok hresult
  have hlines : source.lines = splitLines source.bytes := by
    rw [Source.lines, if_neg (by simp [hread])]
  refine ⟨hread, ?_⟩
  rw [hlines]
  exact (Session.requests_foldl_read hardware { controller := c } source.requests).trans
    (Nat.zero_add _)

/-! ## Lives -/

/-- A session under way. -/
structure Visit where
  source : Source
  sink : Sink
  cut : Cut
  desk : Desk

structure Life where
  /-- None, if the start has failed. -/
  daemon? : Option Daemon
  visit? : Option Visit := none
  /-- The inputs of the sessions so far, and how the sessions have ended. -/
  ended : List (Source × Except SessionError Summary) := []
  /-- The traces up to the end of the last session. -/
  past : List Trace

namespace Life

inductive Step
  | enter (source : Source) (sink : Sink) (cut : Cut)
  | turn (turn : Desk.Turn)
  | leave

def start (s : Surroundings) : Life where
  daemon? := (Daemon.start s).1.toOption
  past := (Daemon.start s).2

def close (l : Life) (d : Daemon) (source : Source) (served : Served) : Life where
  daemon? := some { d with controller := served.controller }
  ended := l.ended ++ [(source, served.result)]
  past := l.past ++ (served.events.map .event ++ (closing served.result).map .health)

/-- One session at a time; it ends when its reader and its writer are done. -/
def step (l : Life) : Step → Option Life
  | .enter source sink cut =>
    match l.daemon?, l.visit? with
    | some d, none =>
      some { l with visit? := some ⟨source, sink, cut, Desk.start d.controller source⟩ }
    | _, _ => none
  | .turn turn =>
    match l.daemon?, l.visit? with
    | some d, some v =>
      (v.desk.step d.hardware v.sink v.cut turn).map fun desk =>
        { l with visit? := some { v with desk } }
    | _, _ => none
  | .leave =>
    match l.daemon?, l.visit? with
    | some d, some v =>
      if v.desk.isFinished then some (l.close d v.source (v.desk.served v.source)) else none
    | _, _ => none

/-- Takes steps; one that is not possible is left out. -/
def run (l : Life) (steps : List Step) : Life :=
  steps.foldl (fun l step => (l.step step).getD l) l

/-- Serves an input, if there is a daemon. -/
def serve (l : Life) (source : Source) (sink : Sink) : Life :=
  match l.daemon? with
  | none => l
  | some d =>
    let (after, served, traces) := d.serve source sink
    { l with
      daemon? := some after
      ended := l.ended ++ [(source, served.result)]
      past := l.past ++ traces }

def serveAll (l : Life) (sessions : List (Source × Sink)) : Life :=
  sessions.foldl (fun l (source, sink) => l.serve source sink) l

/-- The traces up to now. -/
def trace (l : Life) : List Trace :=
  l.past ++ match l.visit? with
    | none => []
    | some v => v.desk.session.events.map .event

/-- The life as it was after the last session. -/
def rested (l : Life) : Life := { l with visit? := none }

variable {first l next : Life} {action : Step}

/-! ## Every life is one of sessions in turn -/

/-- The life has come from `first`, through sessions that might as well have been served at once. -/
structure Follows (first l : Life) : Prop where
  rested_eq : ∃ sessions, l.rested = first.serveAll sessions
  tracks : ∀ d v, l.daemon? = some d → l.visit? = some v →
    v.desk.Tracks d.hardware v.sink v.cut d.controller v.source

theorem serveAll_concat (l : Life) (sessions : List (Source × Sink)) (source : Source)
    (sink : Sink) :
    l.serveAll (sessions ++ [(source, sink)]) = (l.serveAll sessions).serve source sink := by
  simp [serveAll]

theorem serve_of_some {d : Daemon} (hdaemon : l.daemon? = some d) (source : Source) (sink : Sink) :
    l.rested.serve source sink =
      l.close d source (CecGateway.serve d.hardware d.controller source sink) := by
  simp only [serve, rested, hdaemon, Daemon.serve_eq]
  rfl

theorem step_cases (h : l.step action = some next) :
    ∃ d, l.daemon? = some d ∧
      ((∃ source sink cut, next =
          { l with visit? := some ⟨source, sink, cut, Desk.start d.controller source⟩ }) ∨
        ∃ v, l.visit? = some v ∧
          ((∃ turn desk, v.desk.step d.hardware v.sink v.cut turn = some desk ∧
              next = { l with visit? := some { v with desk } }) ∨
            (v.desk.isFinished = true ∧ next = l.close d v.source (v.desk.served v.source)))) := by
  cases hdaemon : l.daemon? with
  | none => cases action <;> simp [Life.step, hdaemon] at h
  | some d =>
      refine ⟨d, rfl, ?_⟩
      cases action with
      | enter source sink cut =>
          cases hvisit : l.visit? with
          | none =>
              simp only [Life.step, hdaemon, hvisit, Option.some.injEq] at h
              exact .inl ⟨source, sink, cut, h.symm⟩
          | some v => simp [Life.step, hdaemon, hvisit] at h
      | turn turn =>
          cases hvisit : l.visit? with
          | none => simp [Life.step, hdaemon, hvisit] at h
          | some v =>
              simp only [Life.step, hdaemon, hvisit, Option.map_eq_some_iff] at h
              obtain ⟨desk, hdesk, rfl⟩ := h
              exact .inr ⟨v, rfl, .inl ⟨turn, desk, hdesk, rfl⟩⟩
      | leave =>
          cases hvisit : l.visit? with
          | none => simp [Life.step, hdaemon, hvisit] at h
          | some v =>
              simp only [Life.step, hdaemon, hvisit, Option.ite_none_right_eq_some,
                Option.some.injEq] at h
              exact .inr ⟨v, rfl, .inr ⟨h.1, h.2.symm⟩⟩

theorem Follows.step (h : first.Follows l) (hstep : l.step action = some next) :
    first.Follows next := by
  obtain ⟨⟨sessions, hrested⟩, htracks⟩ := h
  obtain ⟨d, hdaemon, ⟨source, sink, cut, rfl⟩ |
    ⟨v, hvisit, ⟨turn, desk, hdesk, rfl⟩ | ⟨hfinished, rfl⟩⟩⟩ := step_cases hstep
  · refine ⟨⟨sessions, hrested⟩, fun other visit hother hentered => ?_⟩
    obtain rfl := Option.some_inj.mp (hdaemon.symm.trans hother)
    obtain rfl := Option.some_inj.mp hentered
    exact Desk.tracks_start d.hardware sink cut d.controller source
  · refine ⟨⟨sessions, hrested⟩, fun other visit hother hturned => ?_⟩
    obtain rfl := Option.some_inj.mp (hdaemon.symm.trans hother)
    obtain rfl := Option.some_inj.mp hturned
    simpa [Desk.run, hdesk] using (htracks d v hdaemon hvisit).run [turn]
  · refine ⟨⟨sessions ++ [(v.source, v.sink)], ?_⟩, fun _ _ _ hleft => by cases hleft⟩
    obtain ⟨hsession, hwriting⟩ := (htracks d v hdaemon hvisit).finished hfinished
    rw [serveAll_concat, ← hrested, serve_of_some hdaemon,
      ← Desk.served_eq_serve hsession hwriting]
    rfl

theorem Follows.run (h : first.Follows l) (steps : List Step) : first.Follows (l.run steps) := by
  induction steps generalizing l with
  | nil => exact h
  | cons step rest ih =>
      cases hstep : l.step step with
      | none => simpa [Life.run, hstep] using ih h
      | some next => simpa [Life.run, hstep] using ih (h.step hstep)

theorem run_append (l : Life) (steps later : List Step) :
    l.run (steps ++ later) = (l.run steps).run later := List.foldl_append

theorem run_turns {d : Daemon} {v : Visit} (hdaemon : l.daemon? = some d)
    (hvisit : l.visit? = some v) (turns : List Desk.Turn) :
    l.run (turns.map .turn) = { l with visit? := some { v with
      desk := v.desk.run d.hardware v.sink v.cut turns } } := by
  induction turns generalizing l v with
  | nil =>
      obtain ⟨daemon?, visit?, ended, past⟩ := l
      obtain rfl : visit? = some v := hvisit
      rfl
  | cons turn rest ih =>
      cases hdesk : v.desk.step d.hardware v.sink v.cut turn with
      | none =>
          have hstep : l.step (.turn turn) = none := by
            simp [Life.step, hdaemon, hvisit, hdesk]
          simpa [Life.run, Desk.run, hstep, hdesk] using ih hdaemon hvisit
      | some desk =>
          have hstep : l.step (.turn turn) = some { l with visit? := some { v with desk } } := by
            simp [Life.step, hdaemon, hvisit, hdesk]
          have hrest := ih (l := { l with visit? := some { v with desk } }) hdaemon rfl
          simpa [Life.run, Desk.run, hstep, hdesk] using hrest

theorem exists_run_serve (cut : Cut) (hvisit : l.visit? = none) (source : Source) (sink : Sink) :
    ∃ actions, l.run actions = l.serve source sink := by
  cases hdaemon : l.daemon? with
  | none => exact ⟨[], by simp only [serve, hdaemon]; rfl⟩
  | some d =>
      let v : Visit := ⟨source, sink, cut, Desk.start d.controller source⟩
      obtain ⟨turns, hfinished⟩ := v.desk.exists_finished d.hardware sink cut
      let desk := v.desk.run d.hardware sink cut turns
      let served := { l with visit? := some { v with desk } }
      have henter : l.step (.enter source sink cut) = some { l with visit? := some v } := by
        simp only [Life.step, hdaemon, hvisit]
        rfl
      have hturns : ({ l with visit? := some v } : Life).run (turns.map .turn) = served :=
        run_turns (l := { l with visit? := some v }) hdaemon rfl turns
      have hfinished : desk.isFinished = true := hfinished
      have hleave : served.step .leave = some (served.close d source (desk.served source)) := by
        simp only [Life.step, served, hdaemon, hfinished]
        rfl
      obtain ⟨hsession, hwriting⟩ := ((Desk.tracks_start d.hardware sink cut d.controller
        source).run turns).finished hfinished
      refine ⟨.enter source sink cut :: (turns.map .turn ++ [.leave]), ?_⟩
      calc l.run (.enter source sink cut :: (turns.map .turn ++ [.leave]))
          = ({ l with visit? := some v } : Life).run (turns.map .turn ++ [.leave]) := by
            simp only [Life.run, List.foldl_cons, henter, Option.getD_some]
        _ = served.run [.leave] := by rw [run_append, hturns]
        _ = served.close d source (desk.served source) := by
            simp only [Life.run, List.foldl_cons, List.foldl_nil, hleave, Option.getD_some]
        _ = l.serve source sink := by
            rw [Desk.served_eq_serve hsession hwriting]
            simp only [serve, hdaemon, Daemon.serve_eq, close, served, hvisit]

theorem visit?_serve (hvisit : l.visit? = none) (source : Source) (sink : Sink) :
    (l.serve source sink).visit? = none := by
  cases hdaemon : l.daemon? <;> simp [serve, hdaemon, hvisit]

/-- Whatever is to be served can be, whichever pieces are written. -/
theorem exists_run_serveAll (cut : Cut) (hvisit : l.visit? = none)
    (sessions : List (Source × Sink)) : ∃ actions, l.run actions = l.serveAll sessions := by
  induction sessions generalizing l with
  | nil => exact ⟨[], rfl⟩
  | cons session rest ih =>
      obtain ⟨actions, hfirst⟩ := exists_run_serve cut hvisit session.1 session.2
      obtain ⟨later, hrest⟩ := ih (visit?_serve hvisit session.1 session.2)
      refine ⟨actions ++ later, ?_⟩
      rw [run_append, hfirst, hrest]
      rfl

/-! ## What is reported -/

/-- The reports on sessions: those that have ended well, each with the requests in its input. -/
def reports (ended : List (Source × Except SessionError Summary)) : List Health :=
  ended.filterMap fun (source, result) =>
    if result.isOk then some (.sessionClosed source.requests.length) else none

theorem reports_append (ended later : List (Source × Except SessionError Summary)) :
    reports (ended ++ later) = reports ended ++ reports later := List.filterMap_append

/-- What a life after a good start has come to, through these inputs. -/
structure Records (config : Config) (inputs : List Source) (l : Life) : Prop where
  daemon : ∃ d, l.daemon? = some d ∧ d.config = config
  inputs_eq : l.ended.map (·.1) = inputs
  whole_of_ok : ∀ e ∈ l.ended, e.2.isOk = true → e.1.error? = none
  healths_eq : Trace.healths l.trace =
    [.starting, .handlersReady [.lgTelevision, .generic] true, .succeeded config] ++
      reports l.ended
  /-- The hardware is asked for once, before anything else is done. -/
  provided_once : ∃ later, l.trace =
    .health .starting :: .provided config.adapterCommand config.replyTimeout :: later ∧
      ∀ t ∈ later, t.asksForHardware = false

variable {s : Surroundings} {config : Config} {error : StartError} {inputs : List Source}

/-- What is reported of a session is what its input says. -/
theorem closing_serve (hardware : Hardware) (c : Controller) (source : Source) (sink : Sink) :
    let result := (CecGateway.serve hardware c source sink).result
    closing result = reports [(source, result)] ∧ (result.isOk = true → source.error? = none) := by
  intro result
  cases hresult : result with
  | error error => exact ⟨rfl, nofun⟩
  | ok summary =>
      obtain ⟨hread, hrequests⟩ := requests_of_serve_ok hresult
      exact ⟨by simp [closing, reports, Except.isOk, Except.toBool, hrequests], fun _ => hread⟩

theorem Records.serve (h : l.Records config inputs) (hvisit : l.visit? = none) (source : Source)
    (sink : Sink) : (l.serve source sink).Records config (inputs ++ [source]) := by
  obtain ⟨⟨d, hdaemon, hconfig⟩, hinputs, hwhole, hhealths, later, htrace, hlater⟩ := h
  obtain ⟨hclosing, hread⟩ := closing_serve d.hardware d.controller source sink
  have hrested : l.rested = l := by rw [rested, ← hvisit]
  have hpast : l.trace = l.past := by simp [trace, hvisit]
  rw [hpast] at hhealths htrace
  have hserve := serve_of_some hdaemon source sink
  rw [hrested] at hserve
  rw [hserve]
  generalize CecGateway.serve d.hardware d.controller source sink = served at *
  refine ⟨⟨_, rfl, hconfig⟩, ?_, ?_, ?_, ?_⟩
  · simp [close, hinputs]
  · exact List.forall_mem_append.mpr ⟨hwhole, List.forall_mem_singleton.mpr hread⟩
  · simp [trace, close, hhealths, reports_append, ← hclosing]
  · refine ⟨later ++ (served.events.map .event ++ (closing served.result).map .health), ?_, ?_⟩
    · simp [trace, close, htrace]
    · intro t ht
      simp only [List.mem_append, List.mem_map] at ht
      obtain hearlier | ⟨e, -, rfl⟩ | ⟨health, -, rfl⟩ := ht
      · exact hlater t hearlier
      · rfl
      · rfl

theorem Records.serveAll (h : l.Records config inputs) (hvisit : l.visit? = none)
    (sessions : List (Source × Sink)) :
    (l.serveAll sessions).Records config (inputs ++ sessions.map (·.1)) := by
  induction sessions generalizing l inputs with
  | nil => simpa [Life.serveAll] using h
  | cons session rest ih =>
      have hafter := ih (h.serve hvisit session.1 session.2) (visit?_serve hvisit _ _)
      rwa [List.append_assoc] at hafter

/-- A session under way reports nothing. -/
theorem Records.of_rested (h : l.rested.Records config inputs) : l.Records config inputs := by
  cases hvisit : l.visit? with
  | none => rwa [rested, ← hvisit] at h
  | some v =>
      obtain ⟨hdaemon, hinputs, hwhole, hhealths, later, htrace, hlater⟩ := h
      have hunder : l.trace = l.rested.trace ++ v.desk.session.events.map .event := by
        simp [trace, rested, hvisit]
      refine ⟨hdaemon, hinputs, hwhole, ?_, later ++ v.desk.session.events.map .event, ?_, ?_⟩
      · rw [hunder, Trace.healths_append, Trace.healths_map_event, List.append_nil]
        exact hhealths
      · rw [hunder, htrace]
        rfl
      · refine List.forall_mem_append.mpr ⟨hlater, fun t ht => ?_⟩
        obtain ⟨e, -, rfl⟩ := List.mem_map.mp ht
        rfl

/-- A life that came to nothing. -/
structure Fails (error : StartError) (l : Life) : Prop where
  daemon : l.daemon? = none
  ended_eq : l.ended = []
  trace_eq : l.trace = [.health .starting, .health (.failed error)]

theorem run_of_none (hdaemon : l.daemon? = none) (actions : List Step) : l.run actions = l := by
  induction actions with
  | nil => rfl
  | cons action rest ih =>
      have hstep : l.step action = none := by cases action <;> simp [Life.step, hdaemon]
      simpa [Life.run, hstep] using ih

theorem fails_start (h : Daemon.configure s = .error error) :
    (Daemon.start s).1 = .error error ∧ (start s).Fails error := by
  have hstart : Daemon.start s =
      (.error error, [.health .starting, .health (.failed error)]) := by
    simp only [Daemon.start, h]
  rw [start, hstart]
  exact ⟨rfl, rfl, rfl, rfl⟩

theorem records_start (h : Daemon.configure s = .ok config) :
    ∃ d, (Daemon.start s).1 = .ok d ∧ d.config = config ∧ (start s).Records config [] := by
  let hardware := s.hardware config
  let built := (Daemon.registered config.defaultAdapter).setUp hardware
  let later : List Trace := built.2.2.map .event ++
    [.health (.handlersReady [.lgTelevision, .generic] true), .health (.succeeded config)]
  have hstart : Daemon.start s = (.ok ⟨config, hardware, built.1⟩,
      .health .starting :: .provided config.adapterCommand config.replyTimeout :: later) := by
    obtain ⟨hranks, hcomplete⟩ := Daemon.setUp_registered config.defaultAdapter hardware
    simp only [Daemon.start, h]
    rw [hranks, hcomplete]
    rfl
  refine ⟨_, congrArg Prod.fst hstart, rfl, ?_⟩
  rw [start, hstart]
  refine ⟨⟨_, rfl, rfl⟩, rfl, List.forall_mem_nil _, ?_, later, List.append_nil _, ?_⟩
  · calc Trace.healths _
        = Trace.healths ([.health .starting, .provided config.adapterCommand config.replyTimeout] ++
            later) := by rw [trace, List.append_nil]; rfl
      _ = [.starting, .handlersReady [.lgTelevision, .generic] true, .succeeded config] := by
          simp only [later, Trace.healths_append, Trace.healths_map_event]
          rfl
  · refine List.forall_mem_append.mpr ⟨fun t ht => ?_, by simp [Trace.asksForHardware]⟩
    obtain ⟨e, -, rfl⟩ := List.mem_map.mp ht
    rfl

end Life

/-- However a daemon is started and however the readers and writers of its sessions take turns, at
every moment its health events are those of the first stage that failed, without hardware, or those
of the start and one for each session that has ended well. Between sessions its life is one of
inputs served in turn, and any inputs are served in some life. -/
theorem health_over_a_lifetime (s : Surroundings) (actions : List Life.Step) :
    let l := (Life.start s).run actions
    (∀ error, (Daemon.start s).1 = .error error ↔ s.FailsFirst error) ∧
      (match (Daemon.start s).1 with
        | .error error => l.Fails error
        | .ok d => s.Configures d.config ∧
            ∃ sessions, l.rested = (Life.start s).serveAll sessions ∧
              l.Records d.config (sessions.map (·.1))) ∧
      ∀ sessions, ∃ others, (Life.start s).run others = (Life.start s).serveAll sessions := by
  intro l
  let whole : Cut := ⟨fun text => [text], fun text => by simp [String.join]⟩
  have hserved (sessions : List (Source × Sink)) :
      ∃ others, (Life.start s).run others = (Life.start s).serveAll sessions :=
    Life.exists_run_serveAll whole rfl sessions
  cases hconfigure : Daemon.configure s with
  | error error =>
      obtain ⟨hstart, hfails⟩ := Life.fails_start hconfigure
      refine ⟨fun other => ?_, ?_, hserved⟩
      · rw [hstart, ← Daemon.configure_eq_error_iff, hconfigure, Except.error.injEq,
          Except.error.injEq]
      · rw [hstart]
        have hsame : l = Life.start s := Life.run_of_none hfails.daemon actions
        rwa [← hsame] at hfails
  | ok config =>
      obtain ⟨d, hstart, rfl, hrecords⟩ := Life.records_start hconfigure
      refine ⟨fun other => ?_, ?_, hserved⟩
      · rw [← Daemon.configure_eq_error_iff, hstart, hconfigure]
        simp
      · rw [hstart]
        have hfirst : (Life.start s).Follows (Life.start s) :=
          ⟨⟨[], rfl⟩, fun _ _ _ hvisit => by cases hvisit⟩
        obtain ⟨sessions, hrested⟩ := (hfirst.run actions).rested_eq
        refine ⟨Daemon.configures_of_configure hconfigure, sessions, hrested, .of_rested ?_⟩
        rw [hrested]
        exact hrecords.serveAll rfl sessions

end CecGateway
