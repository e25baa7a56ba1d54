import CecGateway.Daemon
import CecGateway.Proofs.Delivery.Lookout
import CecGateway.Proofs.Serving.Session

/-!
# The watcher in front of a chain

The watcher for LG televisions claims nothing, rewrites nothing and knows no devices. A controller
that has it in front does and answers what it does and answers without, in every call and session;
only the watcher itself is to be seen besides.
-/

namespace CecGateway

/-! ## Without the watcher -/

namespace Event

/-- What there is to be seen of an event when there is no handler in front. The places of the
handlers behind it are smaller by one. -/
def behind? : Event → Option Event
  | .lgAddressed .. | .built 0 | .offered 0 .. => none
  | .built (place + 1) => some (.built place)
  | .offered (place + 1) payload seen => some (.offered place payload seen)
  | e => some e

def behind (events : List Event) : List Event := events.filterMap behind?

@[simp]
theorem behind_append (events later : List Event) :
    behind (events ++ later) = behind events ++ behind later := by
  simp [behind]

@[simp]
theorem behind_built (place : Nat) (events : List Event) :
    behind (.built (place + 1) :: events) = .built place :: behind events := rfl

@[simp]
theorem behind_offered (place : Nat) (payload : Payload) (seen : Option Device)
    (events : List Event) :
    behind (.offered (place + 1) payload seen :: events) =
      .offered place payload seen :: behind events := rfl

theorem behind_of_isDeed {events : List Event} (h : ∀ e ∈ events, e.isDeed = true) :
    behind events = events := by
  rw [behind, List.filterMap_congr (g := some), List.filterMap_some]
  intro e he
  have hdeed := h e he
  cases e <;> first | rfl | contradiction

/-- What is done is done behind the watcher. -/
theorem filterMap_behind {β : Type} {see : Event → Option β}
    (hsee : ∀ e, e.isDeed = false → see e = none) (events : List Event) :
    (behind events).filterMap see = events.filterMap see := by
  rw [behind, List.filterMap_filterMap]
  congr 1
  funext e
  have hnone : e.isDeed = false → see e = none := hsee e
  cases e with
  | built place => cases place <;> simp [behind?, hnone rfl, hsee (.built _) rfl]
  | offered place payload seen =>
      cases place <;> simp [behind?, hnone rfl, hsee (.offered ..) rfl]
  | lgAddressed => simp [behind?, hnone rfl]
  | call | scanned | completed => rfl

/-- The commands to televisions by LG that are logged, each by its destination and its
sub-command. -/
def sightings (events : List Event) : List (String × String) :=
  events.filterMap fun
    | .lgAddressed destination subCommand => some (destination, subCommand)
    | _ => none

theorem sightings_behind (events : List Event) : sightings (behind events) = [] := by
  rw [sightings, behind, List.filterMap_filterMap, List.filterMap_eq_nil_iff]
  intro e _
  cases e with
  | built place => cases place <;> rfl
  | offered place payload seen => cases place <;> rfl
  | _ => rfl

theorem filter_behind (events : List Event) :
    (behind events).filter (·.isDeed) = events.filter (·.isDeed) := by
  rw [← List.filterMap_eq_filter]
  exact filterMap_behind (fun e he => by simp [he]) events

theorem behind_lgEvents (lookup : Lookup) (payload : Payload) :
    behind (lgEvents lookup payload) = [] := by
  unfold lgEvents
  split
  · split <;> rfl
  · rfl

end Event

theorem answersTo_behind (ticket : Nat) (id : Option Json) (events : List Event) :
    answersTo ticket id (Event.behind events) = answersTo ticket id events :=
  Event.filterMap_behind (fun e he => by cases e <;> first | rfl | contradiction) events

/-! ## Handlers and chains behind the watcher -/

namespace Handler

variable {h : Handler}

theorem offer_ne_lgTelevision (hother : h ≠ .lgTelevision) (hardware : Hardware) (lookup : Lookup)
    (command : Command) :
    (h.offer hardware lookup command).1 ≠ .lgTelevision ∧
      ∀ e ∈ (h.offer hardware lookup command).2.2, e.isDeed = true := by
  cases h with
  | lgTelevision => contradiction
  | generic g =>
      exact ⟨nofun, List.forall_mem_append.mpr
        ⟨g.isDeed_handle command, (g.handle command).1.isDeed_settle hardware false⟩⟩
  | custom c =>
      simp only [offer]
      split <;> simp [Event.isDeed]

theorem start_ne_lgTelevision (hother : h ≠ .lgTelevision) (hardware : Hardware)
    (observers : Nat) : (h.start hardware observers).1 ≠ .lgTelevision := by
  cases h <;> simp_all [start]

theorem isDeed_start (h : Handler) (hardware : Hardware) (observers : Nat) :
    ∀ e ∈ (h.start hardware observers).2, e.isDeed = true := by
  cases h with
  | generic g => exact Generic.isDeed_settle { g with observers } hardware false
  | lgTelevision | custom => simp [start]

end Handler

namespace Registration

def watcher : Registration := ⟨.lgTelevision, fun _ => .ok .lgTelevision⟩

def IsWatcher (r : Registration) : Prop := ∃ lookup, r.factory lookup = .ok .lgTelevision

end Registration

namespace Chain

variable (hardware : Hardware) (lookup : Lookup)

/-- One place further on, the handlers do and answer the same. -/
theorem offer_succ (ticket place : Nat) {handlers : List Handler}
    (hothers : ∀ h ∈ handlers, h ≠ .lgTelevision) (payload : Payload) :
    let further := offer hardware lookup ticket (place + 1) handlers payload
    offer hardware lookup ticket place handlers payload =
        (further.1, further.2.1, Event.behind further.2.2) ∧
      ∀ h ∈ further.1, h ≠ .lgTelevision := by
  induction handlers generalizing place payload with
  | nil => exact ⟨rfl, hothers⟩
  | cons h rest ih =>
      obtain ⟨hhead, hrest⟩ := List.forall_mem_cons.mp hothers
      obtain ⟨hafter, hdeeds⟩ :=
        Handler.offer_ne_lgTelevision hhead hardware lookup ⟨ticket, payload⟩
      rcases hoffer : h.offer hardware lookup ⟨ticket, payload⟩ with ⟨after, decision, events⟩
      rw [hoffer] at hafter hdeeds
      have hseen := Event.behind_of_isDeed hdeeds
      cases decision with
      | declined next =>
          obtain ⟨hfurther, hothers⟩ := ih (place + 1) hrest next
          simp only [offer, hoffer, hfurther]
          exact ⟨by simp [hseen], List.forall_mem_cons.mpr ⟨hafter, hothers⟩⟩
      | claimed | deferred =>
          simp only [offer, hoffer]
          exact ⟨by simp [hseen], List.forall_mem_cons.mpr ⟨hafter, hrest⟩⟩

theorem build_succ (observers place : Nat) {registrations : List Registration}
    (hothers : ∀ r ∈ registrations, ¬r.IsWatcher) :
    let further := build hardware lookup observers (place + 1) registrations
    build hardware lookup observers place registrations =
        (further.1, Event.behind further.2) ∧
      ∀ h ∈ further.1.handlers, h ≠ .lgTelevision := by
  induction registrations generalizing place with
  | nil => exact ⟨rfl, List.forall_mem_nil _⟩
  | cons r rest ih =>
      obtain ⟨hhead, hrest⟩ := List.forall_mem_cons.mp hothers
      obtain ⟨hfurther, hothers⟩ := ih (place + 1) hrest
      cases hfactory : r.factory lookup with
      | error fault =>
          simp only [build, hfactory, hfurther]
          exact ⟨by simp, hothers⟩
      | ok h =>
          have hother : h ≠ .lgTelevision := by
            rintro rfl
            exact hhead ⟨lookup, hfactory⟩
          have hseen := Event.behind_of_isDeed (h.isDeed_start hardware observers)
          simp only [build, hfactory, hfurther]
          exact ⟨by simp [hseen], List.forall_mem_cons.mpr
            ⟨Handler.start_ne_lgTelevision hother hardware observers, hothers⟩⟩

/-- The watcher hands a payload on as it is. -/
theorem offer_watched (ticket : Nat) {handlers : List Handler}
    (hothers : ∀ h ∈ handlers, h ≠ .lgTelevision) (payload : Payload) :
    let further := offer hardware lookup ticket 0 (.lgTelevision :: handlers) payload
    let plain := offer hardware lookup ticket 0 handlers payload
    further.1 = .lgTelevision :: plain.1 ∧ further.2.1 = plain.2.1 ∧
      plain.2.2 = Event.behind further.2.2 ∧ ∀ h ∈ plain.1, h ≠ .lgTelevision := by
  intro further plain
  obtain ⟨hplain, hothers⟩ := offer_succ hardware lookup ticket 0 hothers payload
  have hseen : further.2.2 = .offered 0 payload (lookup.destination payload) ::
      (lgEvents lookup payload ++ (offer hardware lookup ticket 1 handlers payload).2.2) := rfl
  have hbehind : Event.behind further.2.2 = Event.behind (lgEvents lookup payload) ++
      Event.behind (offer hardware lookup ticket 1 handlers payload).2.2 := by
    rw [hseen, ← Event.behind_append]
    rfl
  rw [Event.behind_lgEvents, List.nil_append] at hbehind
  simp only [plain, hplain]
  exact ⟨rfl, rfl, hbehind.symm, hothers⟩

def watched (chain : Chain) : Chain := { chain with handlers := .lgTelevision :: chain.handlers }

end Chain

/-! ## Calls -/

namespace Controller

/-- The controller with the watcher in front. -/
def watched (c : Controller) : Controller :=
  match c.chain? with
  | none => { c with registrations := .watcher :: c.registrations }
  | some chain => { c with chain? := some chain.watched }

/-- There is no watcher, and none will be built. -/
structure Unwatched (c : Controller) : Prop where
  handlers : ∀ h ∈ c.handlers, h ≠ .lgTelevision
  registrations : ∀ r ∈ c.registrations, ¬r.IsWatcher

variable {c : Controller}

theorem watched_of_none (hchain : c.chain? = none) :
    c.watched = { c with registrations := .watcher :: c.registrations } := by
  simp only [watched, hchain]

theorem watched_of_some {chain : Chain} (hchain : c.chain? = some chain) :
    c.watched = { c with chain? := some chain.watched } := by
  simp only [watched, hchain]

theorem handlers_watched (c : Controller) :
    c.watched.handlers = if c.isSetUp then .lgTelevision :: c.handlers else [] := by
  cases hchain : c.chain? with
  | none => simp [watched_of_none hchain, handlers, isSetUp, hchain]
  | some chain => simp [watched_of_some hchain, handlers, isSetUp, hchain, Chain.watched]

/-- The last handler is the same, but where there is only the watcher, which knows nothing. -/
@[simp]
theorem device?_watched (c : Controller) : c.watched.device? = c.device? := by
  funext address
  unfold device?
  rw [handlers_watched]
  cases hchain : c.chain? with
  | none => simp [isSetUp, handlers, hchain]
  | some chain =>
      have hhandlers : c.handlers = chain.handlers := by simp [handlers, hchain]
      rw [hhandlers]
      cases chain.handlers with
      | nil => simp [isSetUp, hchain, Handler.device?]
      | cons h rest => simp [isSetUp, hchain, List.getLast?_cons_cons]

theorem drop_watched (hardware : Hardware) (c : Controller) :
    c.watched.drop hardware = c.drop hardware := by
  unfold drop
  rw [handlers_watched]
  cases hchain : c.chain? <;> simp [isSetUp, handlers, hchain, Handler.drop]

theorem subscribe_watched (c : Controller) : c.watched.subscribe = c.subscribe.watched := by
  cases hchain : c.chain? <;> simp [watched, subscribe, hchain, Chain.watched, Handler.subscribe]

theorem Unwatched.setUp (h : c.Unwatched) (hardware : Hardware) :
    let further := c.watched.setUp hardware
    let plain := c.setUp hardware
    further.1 = plain.1.watched ∧ further.2.1 = plain.2.1.watched ∧
      plain.2.2 = Event.behind further.2.2 ∧ plain.1.Unwatched := by
  intro further plain
  cases hchain : c.chain? with
  | some chain =>
      have hwatched : c.watched.chain? = some chain.watched := by rw [watched_of_some hchain]
      simp only [further, plain, setUp_of_chain hchain, setUp_of_chain hwatched]
      exact ⟨trivial, trivial, rfl, h⟩
  | none =>
      have hwatched : c.watched.chain? = none := by rw [watched_of_none hchain]; exact hchain
      obtain ⟨hbuild, hothers⟩ :=
        Chain.build_succ hardware c.device? c.observers 0 h.registrations
      simp only [further, plain, Controller.setUp, hchain, hwatched, device?_watched]
      rw [watched_of_none hchain, hbuild]
      exact ⟨rfl, rfl, rfl, hothers, List.forall_mem_nil _⟩

theorem Unwatched.dispatch (h : c.Unwatched) (hardware : Hardware) (command : Command) :
    let further := c.watched.dispatch hardware command
    let plain := c.dispatch hardware command
    further.1 = plain.1.watched ∧ further.2.1 = plain.2.1 ∧
      plain.2.2 = Event.behind further.2.2 ∧ plain.1.Unwatched := by
  intro further plain
  obtain ⟨hcontroller, hchain, hbuilt, hafter⟩ := h.setUp hardware
  have hfurther : further = _ := dispatch_eq hardware c.watched command
  have hplain : plain = _ := dispatch_eq hardware c command
  have hset := chain?_setUp hardware c
  have hothers := hafter.handlers
  rw [Controller.handlers, hset, Option.map_some, Option.getD_some] at hothers
  obtain ⟨hhandlers, hdecision, hoffered, hothers⟩ := Chain.offer_watched hardware
    (c.setUp hardware).1.device? command.ticket hothers command.payload
  simp only [hcontroller, hchain, device?_watched, Chain.watched, hhandlers, hdecision] at hfurther
  have hcompletion (decision : Decision) :
      Event.behind (decision.completion command) = decision.completion command := by
    cases decision <;> rfl
  rw [hplain, hfurther, watched_of_some hset]
  refine ⟨rfl, rfl, ?_, hothers, hafter.registrations⟩
  simp only [Event.behind_append, hcompletion, hbuilt, hoffered]

end Controller

/-! ## Sessions -/

namespace Session

/-- A session with the watcher, and the same without. -/
structure Behind (plain further : Session) : Prop where
  unwatched : plain.controller.Unwatched
  controller_eq : further.controller = plain.controller.watched
  summary_eq : further.summary = plain.summary
  answers_eq : further.answers = plain.answers
  events_eq : plain.events = Event.behind further.events

variable {plain further : Session}

theorem Behind.read (h : plain.Behind further) (hardware : Hardware) (line : List UInt8) :
    (plain.read hardware line).Behind (further.read hardware line) := by
  obtain ⟨hunwatched, hcontroller, hsummary, hanswers, hevents⟩ := h
  cases hline : Reading.ofLine line with
  | rejected id =>
      rw [read_rejected hardware plain hline, read_rejected hardware further hline]
      exact ⟨hunwatched, hcontroller, by rw [hsummary], by rw [hanswers], hevents⟩
  | command id payload =>
      obtain ⟨hafter, -, hseen, hunwatched⟩ :=
        hunwatched.dispatch hardware ⟨plain.summary.requests + 1, payload⟩
      rw [read_command hardware plain hline, read_command hardware further hline, hcontroller,
        hsummary]
      refine ⟨hunwatched, hafter, rfl, ?_, ?_⟩
      · rw [hanswers, hseen, answersTo_behind]
      · rw [Event.behind_append, hevents, hseen]

theorem Behind.foldl_read (h : plain.Behind further) (hardware : Hardware)
    (lines : List (List UInt8)) :
    (lines.foldl (Session.read hardware) plain).Behind
      (lines.foldl (Session.read hardware) further) := by
  induction lines generalizing plain further with
  | nil => exact h
  | cons line rest ih => exact ih (h.read hardware line)

end Session

namespace Controller

variable {c : Controller}

theorem Unwatched.serve (h : c.Unwatched) (hardware : Hardware) (source : Source) (sink : Sink) :
    let further := CecGateway.serve hardware c.watched source sink
    let plain := CecGateway.serve hardware c source sink
    further.controller = plain.controller.watched ∧ further.written = plain.written ∧
      further.result = plain.result ∧ plain.events = Event.behind further.events ∧
      plain.controller.Unwatched := by
  intro further plain
  have hstart : Session.Behind { controller := c } { controller := c.watched } :=
    ⟨h, rfl, rfl, rfl, rfl⟩
  obtain ⟨hunwatched, hcontroller, hsummary, hanswers, hevents⟩ :=
    hstart.foldl_read hardware (source.lines.filter (!isBlankLine ·))
  simp only [further, plain, CecGateway.serve, Session.readAll, Session.output, hsummary, hanswers]
  exact ⟨hcontroller, trivial, trivial, hevents, hunwatched⟩

/-! ## Uses -/

/-- The chain is asked for, a command is dispatched, an observer subscribes, a session is served. -/
inductive Use
  | build (hardware : Hardware)
  | dispatch (hardware : Hardware) (command : Command)
  | subscribe
  | session (hardware : Hardware) (source : Source) (sink : Sink)

/-- What is seen of a use, the answer to a call that has one, and what a session writes and comes
to. -/
structure Shown where
  events : List Event := []
  answer? : Option Bool := none
  served? : Option (List String × Except SessionError Summary) := none

def use (c : Controller) : Use → Controller × Shown
  | .build hardware =>
    let (c, chain, events) := c.setUp hardware
    (c, { events, answer? := some chain.isComplete })
  | .dispatch hardware command =>
    let (c, isClaimed, events) := c.dispatch hardware command
    (c, { events, answer? := some isClaimed })
  | .subscribe => (c.subscribe, {})
  | .session hardware source sink =>
    let served := serve hardware c source sink
    (served.controller,
      { events := served.events, served? := some (served.written, served.result) })

def useAll (c : Controller) : List Use → Controller × List Shown
  | [] => (c, [])
  | u :: rest => (((c.use u).1.useAll rest).1, (c.use u).2 :: ((c.use u).1.useAll rest).2)

def Shown.behind (shown : Shown) : Shown := { shown with events := Event.behind shown.events }

theorem Unwatched.subscribe (h : c.Unwatched) : c.subscribe.Unwatched where
  handlers := by
    have hhandlers := h.handlers
    cases hchain : c.chain? with
    | none => simp [Controller.handlers, Controller.subscribe, hchain]
    | some chain =>
        simp only [Controller.handlers, hchain, Option.map_some, Option.getD_some] at hhandlers
        simp only [Controller.handlers, Controller.subscribe, hchain, Option.map_some,
          Option.getD_some]
        refine List.forall_mem_map.mpr fun handler hmem => ?_
        have hother := hhandlers handler hmem
        cases handler <;> first | contradiction | simp [Handler.subscribe]
  registrations := h.registrations

theorem Unwatched.use (h : c.Unwatched) (u : Use) :
    (c.watched.use u).1 = (c.use u).1.watched ∧ (c.use u).2 = (c.watched.use u).2.behind ∧
      (c.use u).1.Unwatched := by
  cases u with
  | build hardware =>
      obtain ⟨hcontroller, hchain, hevents, hafter⟩ := h.setUp hardware
      refine ⟨hcontroller, ?_, hafter⟩
      simp [Controller.use, Shown.behind, hchain, hevents, Chain.watched]
  | dispatch hardware command =>
      obtain ⟨hcontroller, hclaim, hevents, hafter⟩ := h.dispatch hardware command
      refine ⟨hcontroller, ?_, hafter⟩
      simp [Controller.use, Shown.behind, hclaim, hevents]
  | subscribe => exact ⟨subscribe_watched c, rfl, h.subscribe⟩
  | session hardware source sink =>
      obtain ⟨hcontroller, hwritten, hresult, hevents, hafter⟩ := h.serve hardware source sink
      refine ⟨hcontroller, ?_, hafter⟩
      simp [Controller.use, Shown.behind, hwritten, hresult, hevents]

theorem Unwatched.useAll (h : c.Unwatched) (uses : List Use) :
    (c.watched.useAll uses).1 = (c.useAll uses).1.watched ∧
      (c.useAll uses).2 = (c.watched.useAll uses).2.map (·.behind) := by
  induction uses generalizing c with
  | nil => exact ⟨rfl, rfl⟩
  | cons u rest ih =>
      obtain ⟨hcontroller, hshown, hafter⟩ := h.use u
      obtain ⟨hlast, hrest⟩ := ih hafter
      simp only [Controller.useAll, hcontroller]
      exact ⟨hlast, by rw [List.map_cons, hshown, hrest]⟩

/-- The generic handler alone. -/
def unwatched (defaultAdapter : String) : Controller :=
  ({} : Controller).register ⟨.generic, fun _ => .ok (.generic { defaultAdapter })⟩

theorem unwatched_unwatched (defaultAdapter : String) : (unwatched defaultAdapter).Unwatched where
  handlers := List.forall_mem_nil _
  registrations := List.forall_mem_singleton.mpr (by simp [Registration.IsWatcher])

end Controller

/-- The watcher in front of the generic handler is registered before or after it, and then nothing
but the watcher itself tells the two controllers apart, in whatever uses are made of them, and in
whatever turns the calls, the watcher and the worker take. -/
theorem watcher_changes_nothing (defaultAdapter : String) :
    let watched := Daemon.registered defaultAdapter
    let alone := Controller.unwatched defaultAdapter
    watched = alone.register .watcher ∧
    (∀ uses,
      let further := watched.useAll uses
      let plain := alone.useAll uses
      plain.2 = further.2.map (·.behind) ∧
        further.1.handlers =
          (if plain.1.isSetUp then .lgTelevision :: plain.1.handlers else []) ∧
        (∀ address, further.1.device? address = plain.1.device? address) ∧
        (∀ hardware, further.1.drop hardware = plain.1.drop hardware) ∧
        (plain.2.flatMap (·.events)).filter (·.isDeed) =
          (further.2.flatMap (·.events)).filter (·.isDeed) ∧
        Event.sightings (plain.2.flatMap (·.events)) = []) ∧
    ∀ observers,
      let further := (Lookout.start defaultAdapter observers).run
      let plain := (Relay.start defaultAdapter observers).run
      (∀ steps, ∃ others,
        plain others = ((further steps).1.relay, (further steps).2.filter (·.isDeed))) ∧
      ∀ others, ∃ steps,
        plain others = ((further steps).1.relay, (further steps).2.filter (·.isDeed)) := by
  intro watched alone
  refine ⟨rfl, fun uses => ?_, fun observers => ⟨?_, fun others => ?_⟩⟩
  · intro further plain
    obtain ⟨hcontroller, hshown⟩ := (Controller.unwatched_unwatched defaultAdapter).useAll uses
    have hfurther : further.1 = plain.1.watched := hcontroller
    have hbehind : plain.2.flatMap (·.events) = Event.behind (further.2.flatMap (·.events)) := by
      simp only [plain, alone, hshown, List.flatMap_map, Controller.Shown.behind, Event.behind,
        List.filterMap_flatMap]
      rfl
    refine ⟨hshown, ?_, fun address => ?_, fun hardware => ?_, ?_, ?_⟩
    · rw [hfurther, Controller.handlers_watched]
    · rw [hfurther, Controller.device?_watched]
    · rw [hfurther, Controller.drop_watched]
    · rw [hbehind, Event.filter_behind]
    · rw [hbehind, Event.sightings_behind]
  · exact Lookout.exists_relay_run (Lookout.tellsDeeds_start defaultAdapter observers)
  · obtain ⟨steps, hrun, hseen⟩ :=
      Lookout.exists_run (Lookout.tellsDeeds_start defaultAdapter observers) others
    refine ⟨steps, ?_⟩
    rw [hrun, hseen]
    rfl

end CecGateway
