import CecGateway.Controller
import CecGateway.Proofs.Traffic.Course

/-!
# The standard chain

A controller may hold the watcher for LG televisions, the generic handler, both or none. The watcher
hands on what it is offered, so a command that is dispatched is one call of the generic handler; if
there is none, the command fails.
-/

namespace CecGateway

def standardChain (watches : Bool) (generic? : Option Generic) : List Handler :=
  (if watches then [.lgTelevision] else []) ++ (generic?.map .generic).toList

/-! ## What the chain is offered -/

/-- The payloads that the first handler of the chain is offered. -/
def Event.offers (events : List Event) : List Payload :=
  events.filterMap fun
    | .offered 0 payload _ => some payload
    | _ => none

@[simp]
theorem Event.offers_append (events later : List Event) :
    offers (events ++ later) = offers events ++ offers later := by
  simp [offers]

@[simp]
theorem Event.offers_built (place : Nat) (events : List Event) :
    offers (.built place :: events) = offers events := rfl

@[simp]
theorem Event.offers_completed (ticket : Nat) (result : Result) :
    offers [.completed ticket result] = [] := rfl

/-! ## What the handlers do -/

/-- What the controller does, as against its handlers: factories are run, handlers are asked. -/
def Event.isControl : Event → Bool
  | .built _ | .offered .. => true
  | _ => false

/-- Where only what the controller does is looked for, nothing is found at its handlers. -/
theorem Event.filterMap_eq_nil {β : Type} {see : Event → Option β} {events : List Event}
    (h : ∀ e ∈ events, e.isControl = false) (hsee : ∀ e, e.isControl = false → see e = none) :
    events.filterMap see = [] :=
  List.filterMap_eq_nil_iff.mpr fun e he => hsee e (h e he)

theorem Event.offers_eq_nil {events : List Event} (h : ∀ e ∈ events, e.isControl = false) :
    offers events = [] :=
  filterMap_eq_nil h fun e he => by cases e <;> first | rfl | contradiction

/-- What is done for a command, as against how it comes to a handler and who watches. -/
def Event.isDeed : Event → Bool
  | .call _ | .scanned .. | .completed .. => true
  | .lgAddressed .. | .built _ | .offered .. => false

theorem Event.isControl_of_isDeed {e : Event} (h : e.isDeed = true) : e.isControl = false := by
  cases e <;> first | rfl | contradiction

theorem Generic.isDeed_apply (g : Generic) (result : Result) :
    ∀ e ∈ (g.apply result).2, e.isDeed = true := by
  unfold Generic.apply
  split <;> simp [Event.isDeed]

theorem Traffic.Effect.isDeed {t next : Traffic} {s : Step} {events : List Event}
    (h : t.Effect s next events) : ∀ e ∈ events, e.isDeed = true := by
  cases h with
  | @answered fault? message answer p result hworker hpending hresult =>
      exact List.forall_mem_append.mpr ⟨Generic.isDeed_apply _ result, by simp [Event.isDeed]⟩
  | _ => simp [Generic.fail, Event.isDeed]

theorem Traffic.Leads.isDeed {t next : Traffic} {allowed : Step → Bool} {events : List Event}
    (h : t.Leads allowed events next) : ∀ e ∈ events, e.isDeed = true := by
  induction h with
  | refl t => simp
  | step _ hstep _ ih => exact List.forall_mem_append.mpr ⟨(effect_of_step hstep).isDeed, ih⟩

namespace Generic

variable (g : Generic)

theorem isDeed_handle (command : Command) : ∀ e ∈ (g.handle command).2, e.isDeed = true :=
  (Traffic.handle_leads { handler := g } command).isDeed

theorem isDeed_settle (hardware : Hardware) (isHeld : Bool) :
    ∀ e ∈ (g.settle hardware isHeld).2, e.isDeed = true :=
  (Traffic.settle_leads hardware isHeld { handler := g }).isDeed

theorem isControl_handle (command : Command) : ∀ e ∈ (g.handle command).2, e.isControl = false :=
  fun e he => Event.isControl_of_isDeed (g.isDeed_handle command e he)

theorem isControl_settle (hardware : Hardware) (isHeld : Bool) :
    ∀ e ∈ (g.settle hardware isHeld).2, e.isControl = false :=
  fun e he => Event.isControl_of_isDeed (g.isDeed_settle hardware isHeld e he)

end Generic

/-! ## Building the chain and offering to it -/

namespace Chain

/-- What the factories build; one that fails builds nothing. -/
def buildable (lookup : Lookup) (registrations : List Registration) : List Handler :=
  registrations.filterMap fun r => (r.factory lookup).toOption

section

variable (hardware : Hardware) (lookup : Lookup) (observers place : Nat)
  (registrations : List Registration)

theorem build_handlers :
    (build hardware lookup observers place registrations).1.handlers =
      (buildable lookup registrations).map fun h => (h.start hardware observers).1 := by
  induction registrations generalizing place with
  | nil => rfl
  | cons r rest ih =>
      cases hfactory : r.factory lookup with
      | ok h => simp [build, buildable, hfactory, Except.toOption, ih]
      | error fault => simpa [build, buildable, hfactory, Except.toOption] using ih (place + 1)

/-- Apart from the factories at work, only the handlers are seen. -/
theorem filterMap_build {β : Type} {see : Event → Option β}
    (hsee : ∀ place, see (.built place) = none) :
    (build hardware lookup observers place registrations).2.filterMap see =
      ((buildable lookup registrations).flatMap fun h =>
        (h.start hardware observers).2).filterMap see := by
  induction registrations generalizing place with
  | nil => rfl
  | cons r rest ih =>
      have hrest := ih (place + 1)
      simp only [buildable] at hrest
      cases hfactory : r.factory lookup with
      | ok h => simp [build, buildable, hfactory, Except.toOption, hsee, hrest]
      | error fault => simpa [build, buildable, hfactory, Except.toOption, hsee] using hrest

end

section

variable (hardware : Hardware) (lookup : Lookup) (ticket : Nat) (payload : Payload)
  (watches : Bool)

theorem lgEvents_unseen :
    Event.completions (lgEvents lookup payload) = [] ∧
      Event.offers (lgEvents lookup payload) = [] ∧
      Event.calls (lgEvents lookup payload) = [] := by
  unfold lgEvents
  split
  · split <;> exact ⟨rfl, rfl, rfl⟩
  · exact ⟨rfl, rfl, rfl⟩

theorem offer_without_generic :
    ∃ events, Event.completions events = [] ∧
      Event.offers events = (if watches then [payload] else []) ∧
      offer hardware lookup ticket 0 (standardChain watches none) payload =
        (standardChain watches none, .declined payload, events) := by
  obtain ⟨hcompletions, hoffers, -⟩ := lgEvents_unseen lookup payload
  cases watches with
  | false => exact ⟨[], rfl, rfl, rfl⟩
  | true =>
      refine ⟨.offered 0 payload (lookup.destination payload) :: lgEvents lookup payload,
        hcompletions, ?_, by simp [offer, standardChain, Handler.offer]⟩
      exact congrArg (payload :: ·) hoffers

theorem offer_generic (g : Generic) :
    let called := g.handle ⟨ticket, payload⟩
    let settled := called.1.settle hardware false
    ∃ events, Event.completions events = Event.completions (called.2 ++ settled.2) ∧
      Event.offers events = [payload] ∧
      Event.calls events = Event.calls (called.2 ++ settled.2) ∧
      offer hardware lookup ticket 0 (standardChain watches (some g)) payload =
        (standardChain watches (some settled.1), .claimed, events) := by
  intro called settled
  obtain ⟨hcompletions, hoffers, hcalls⟩ := lgEvents_unseen lookup payload
  have hnone : Event.offers (called.2 ++ settled.2) = [] := by
    rw [Event.offers_append, Event.offers_eq_nil (g.isControl_handle _),
      Event.offers_eq_nil (called.1.isControl_settle hardware false)]
    rfl
  cases watches with
  | false =>
      refine ⟨.offered 0 payload (lookup.destination payload) :: (called.2 ++ settled.2),
        ?_, ?_, ?_, rfl⟩
      · rw [Event.completions_offered]
      · exact congrArg (payload :: ·) hnone
      · rw [Event.calls_offered]
  | true =>
      refine ⟨.offered 0 payload (lookup.destination payload) :: lgEvents lookup payload ++
        .offered 1 payload (lookup.destination payload) :: (called.2 ++ settled.2), ?_, ?_, ?_, rfl⟩
      · rw [List.cons_append, Event.completions_offered, Event.completions_append, hcompletions,
          List.nil_append, Event.completions_offered]
      · rw [Event.offers_append]
        exact congrArg₂ (payload :: · ++ ·) hoffers hnone
      · rw [List.cons_append, Event.calls_offered, Event.calls_append, hcalls, List.nil_append,
          Event.calls_offered]

end

end Chain

namespace Decision

def isClaim : Decision → Bool
  | declined _ => false
  | _ => true

/-- What is left to be completed later. -/
def deferral (ticket : Nat) : Decision → List (Nat × Result)
  | deferred result => [(ticket, result)]
  | _ => []

/-- What becomes of a command when this is the decision of the last that was asked. -/
def completion (command : Command) : Decision → List Event
  | declined _ => [.completed command.ticket (.failure command.payload.kind .unknown)]
  | _ => []

end Decision

namespace Controller

theorem setUp_of_chain {c : Controller} {chain : Chain} (hchain : c.chain? = some chain)
    (hardware : Hardware) :
    c.setUp hardware = (c, chain, []) := by
  simp only [setUp, hchain]

theorem chain?_setUp (hardware : Hardware) (c : Controller) :
    (c.setUp hardware).1.chain? = some (c.setUp hardware).2.1 := by
  cases hchain : c.chain? <;> simp [setUp, hchain]

/-- A dispatch builds the chain, if there is none, and goes along it. -/
theorem dispatch_eq (hardware : Hardware) (c : Controller) (command : Command) :
    let built := c.setUp hardware
    let offered := Chain.offer hardware built.1.device? command.ticket 0 built.2.1.handlers
      command.payload
    c.dispatch hardware command =
      ({ built.1 with
          chain? := some { built.2.1 with handlers := offered.1 }
          deferred := built.1.deferred ++ offered.2.1.deferral command.ticket },
        offered.2.1.isClaim, built.2.2 ++ (offered.2.2 ++ offered.2.1.completion command)) := by
  rcases hbuilt : c.setUp hardware with ⟨built, chain, events⟩
  rcases hoffered : Chain.offer hardware built.device? command.ticket 0 chain.handlers
    command.payload with ⟨handlers, decision, later⟩
  simp only [dispatch, hbuilt, hoffered]
  cases decision <;> simp [Decision.deferral, Decision.isClaim, Decision.completion]

/-- The handlers of the controller, or those it will have when the first command arrives: a watcher
or not, and perhaps a generic handler. -/
inductive Holds (c : Controller) (watches : Bool) (generic? : Option Generic) : Prop
  | built {chain : Chain} (hchain : c.chain? = some chain)
      (hhandlers : chain.handlers = standardChain watches generic?)
  | registered {built? : Option Generic} (hchain : c.chain? = none)
      (hbuildable : Chain.buildable c.device? c.registrations = standardChain watches built?)
      (hgeneric : generic? = built?.map fun g => { g with observers := c.observers })

/-- A controller with these handlers, and nothing under way. -/
structure Rests (c : Controller) (watches : Bool) (generic? : Option Generic) : Prop where
  holds : c.Holds watches generic?
  quiet : ∀ g, generic? = some g → g.Quiet

/-- The generic handler when the first command has arrived. -/
def awaken (hardware : Hardware) (c : Controller) (g : Generic) : Generic × List Event :=
  if c.isSetUp then (g, []) else g.settle hardware false

variable {c : Controller} {watches : Bool} {generic? : Option Generic} {g : Generic}

theorem awaken_leads (hardware : Hardware) (c : Controller) (t : Traffic) :
    t.Leads Traffic.Step.isInternal (c.awaken hardware t.handler).2
      { t with handler := (c.awaken hardware t.handler).1 } := by
  unfold awaken
  split
  · exact .refl t
  · exact Traffic.settle_leads hardware false t

theorem quiet_awaken (hquiet : g.Quiet) (hardware : Hardware) (c : Controller) :
    (c.awaken hardware g).1.Quiet ∧ Event.completions (c.awaken hardware g).2 = [] := by
  unfold awaken
  split
  · exact ⟨hquiet, rfl⟩
  · exact hquiet.settle hardware

theorem flatMap_start_standardChain (hardware : Hardware) (observers : Nat) :
    (standardChain watches generic?).flatMap (fun h => (h.start hardware observers).2) =
      generic?.elim [] fun g => ({ g with observers }.settle hardware false).2 := by
  cases watches <;> cases generic? <;> simp [standardChain, Handler.start]

theorem Holds.handlers_setUp (hholds : c.Holds watches generic?) (hardware : Hardware) :
    (c.setUp hardware).2.1.handlers =
      standardChain watches (generic?.map fun g => (c.awaken hardware g).1) := by
  cases hholds with
  | built hchain hhandlers =>
      cases generic? <;> simp [Controller.setUp, awaken, isSetUp, hchain, hhandlers]
  | @registered built? hchain hbuildable hgeneric =>
      rw [hgeneric]
      simp only [Controller.setUp, hchain, Chain.build_handlers, hbuildable]
      cases watches <;> cases built? <;>
        simp [standardChain, Handler.start, awaken, isSetUp, hchain]

/-- Apart from the factories at work, only the generic handler is seen. -/
theorem Holds.filterMap_setUp {β : Type} {see : Event → Option β}
    (hholds : c.Holds watches generic?) (hardware : Hardware)
    (hsee : ∀ place, see (.built place) = none) :
    (c.setUp hardware).2.2.filterMap see =
      (generic?.elim [] fun g => (c.awaken hardware g).2).filterMap see := by
  cases hholds with
  | built hchain hhandlers =>
      cases generic? <;> simp [Controller.setUp, awaken, isSetUp, hchain]
  | @registered built? hchain hbuildable hgeneric =>
      have hbuild := Chain.filterMap_build hardware c.device? c.observers 0 c.registrations hsee
      rw [hbuildable, flatMap_start_standardChain] at hbuild
      rw [hgeneric]
      simp only [Controller.setUp, hchain]
      refine hbuild.trans ?_
      cases built? <;> simp [awaken, isSetUp, hchain]

theorem Holds.setUp (hholds : c.Holds watches generic?) (hardware : Hardware) :
    (c.setUp hardware).2.1.handlers =
        standardChain watches (generic?.map fun g => (c.awaken hardware g).1) ∧
      Event.completions (c.setUp hardware).2.2 =
        generic?.elim [] (fun g => Event.completions (c.awaken hardware g).2) ∧
      Event.offers (c.setUp hardware).2.2 = [] := by
  have hcompletions : Event.completions _ = Event.completions _ :=
    hholds.filterMap_setUp hardware fun _ => rfl
  have hoffers : Event.offers _ = Event.offers _ := hholds.filterMap_setUp hardware fun _ => rfl
  refine ⟨hholds.handlers_setUp hardware, hcompletions.trans ?_, hoffers.trans ?_⟩
  · cases generic? <;> rfl
  · cases generic? with
    | none => rfl
    | some g =>
        exact Event.offers_eq_nil fun e he => Event.isControl_of_isDeed
          ((c.awaken_leads hardware { handler := g }).isDeed e he)

theorem Rests.setUp (hrests : c.Rests watches generic?) (hardware : Hardware) :
    (c.setUp hardware).1.Rests watches (generic?.map fun g => (c.awaken hardware g).1) := by
  obtain ⟨hhandlers, -⟩ := hrests.holds.setUp hardware
  refine ⟨.built (chain?_setUp hardware c) hhandlers, fun g hg => ?_⟩
  obtain ⟨before, hbefore, rfl⟩ := Option.map_eq_some_iff.mp hg
  exact (quiet_awaken (hrests.quiet before hbefore) hardware c).1

theorem Holds.dispatch_without_generic (hholds : c.Holds watches none) (hardware : Hardware)
    (command : Command) :
    (c.dispatch hardware command).1.Holds watches none ∧
      Event.completions (c.dispatch hardware command).2.2 =
        [(command.ticket, .failure command.payload.kind .unknown)] ∧
      Event.offers (c.dispatch hardware command).2.2 =
        if watches then [command.payload] else [] := by
  obtain ⟨hhandlers, hcompletions, hoffers⟩ := hholds.setUp hardware
  obtain ⟨events, hevents, hoffered, hoffer⟩ := Chain.offer_without_generic hardware
    (c.setUp hardware).1.device? command.ticket command.payload watches
  simp only [Option.map_none, Option.elim] at hhandlers hcompletions
  simp only [dispatch, hhandlers, hoffer]
  exact ⟨.built rfl rfl, by simp [hcompletions, hevents], by simp [hoffers, hoffered]⟩

theorem Holds.dispatch_generic (hholds : c.Holds watches (some g)) (hquiet : g.Quiet)
    (hardware : Hardware) (command : Command) :
    let called := (c.awaken hardware g).1.handle command
    let settled := called.1.settle hardware false
    (c.dispatch hardware command).1.Holds watches (some settled.1) ∧
      Event.completions (c.dispatch hardware command).2.2 =
        Event.completions (called.2 ++ settled.2) ∧
      Event.offers (c.dispatch hardware command).2.2 = [command.payload] ∧
      ∃ later, (c.dispatch hardware command).2.2 = (c.setUp hardware).2.2 ++ later ∧
        Event.calls later = Event.calls (called.2 ++ settled.2) := by
  obtain ⟨hhandlers, hcompletions, hoffers⟩ := hholds.setUp hardware
  obtain ⟨-, hnothing⟩ := quiet_awaken hquiet hardware c
  obtain ⟨events, hevents, hoffered, hcalls, hoffer⟩ := Chain.offer_generic hardware
    (c.setUp hardware).1.device? command.ticket command.payload watches (c.awaken hardware g).1
  simp only [Option.map_some, Option.elim, hnothing] at hhandlers hcompletions
  simp only [dispatch, hhandlers, hoffer]
  exact ⟨.built rfl rfl, by simp [hcompletions, hevents], by simp [hoffers, hoffered],
    events, rfl, hcalls⟩

end Controller

end CecGateway
