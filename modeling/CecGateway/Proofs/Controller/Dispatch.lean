import CecGateway.Proofs.Controller.Calls
import Mathlib.Data.List.Chain

/-!
# Dispatch

A command goes along the chain until a handler claims it. Each handler is asked once, about what the
one before it has handed on, which may be a payload of another kind; a command that nobody claims
fails as what it was at first. So among any calls every dispatched command is completed once, or
waits for a handler that has put it off (`dispatch_follows_chain`).
-/

namespace CecGateway

/-! ## The handlers that are asked -/

/-- What a handler is asked about, and what it decides. -/
structure Offering where
  handler : Handler
  payload : Payload
  decision : Decision

namespace Chain

/-- The handlers are asked in order, each about what the one before it has handed on, up to the
first that claims the command. -/
structure Walk (hardware : Hardware) (lookup : Lookup) (ticket : Nat) (handlers : List Handler)
    (payload : Payload) (offerings : List Offering) : Prop where
  asked : offerings.map (·.handler) <+: handlers
  decided : ∀ o ∈ offerings,
    (o.handler.offer hardware lookup ⟨ticket, o.payload⟩).2.1 = o.decision
  first : ∀ o ∈ offerings.head?, o.payload = payload
  handedOn : offerings.IsChain fun o next => o.decision = .declined next.payload
  ends : offerings.length = handlers.length ∨ ∃ o ∈ offerings.getLast?, o.decision.isClaim = true

section

variable {hardware : Hardware} {lookup : Lookup} {ticket : Nat} {h : Handler}
  {rest : List Handler} {payload next : Payload} {decision : Decision} {offerings : List Offering}

theorem walk_nil : Walk hardware lookup ticket [] payload [] where
  asked := List.nil_prefix
  decided := by simp
  first := by simp
  handedOn := .nil
  ends := .inl rfl

theorem Walk.claim (hdecision : (h.offer hardware lookup ⟨ticket, payload⟩).2.1 = decision)
    (hclaim : decision.isClaim = true) :
    Walk hardware lookup ticket (h :: rest) payload [⟨h, payload, decision⟩] where
  asked := by simp
  decided := by simpa using hdecision
  first := by simp
  handedOn := .singleton _
  ends := .inr ⟨_, rfl, hclaim⟩

theorem Walk.decline (hwalk : Walk hardware lookup ticket rest next offerings)
    (hdecision : (h.offer hardware lookup ⟨ticket, payload⟩).2.1 = .declined next) :
    Walk hardware lookup ticket (h :: rest) payload
      (⟨h, payload, .declined next⟩ :: offerings) where
  asked := by simpa using hwalk.asked
  decided := List.forall_mem_cons.mpr ⟨hdecision, hwalk.decided⟩
  first := by simp
  handedOn := hwalk.handedOn.cons fun o ho => by rw [hwalk.first o ho]
  ends := by
    obtain hlength | ⟨o, ho, hclaim⟩ := hwalk.ends
    · exact .inl (congrArg (· + 1) hlength)
    · refine .inr ⟨o, ?_, hclaim⟩
      rw [List.getLast?_cons, Option.mem_def.mp ho]
      rfl

end

/-- Offering a command is such a walk, and what is seen of it are the offers. -/
theorem exists_walk (hardware : Hardware) (lookup : Lookup) (ticket place : Nat)
    (handlers : List Handler) (payload : Payload) :
    let offered := offer hardware lookup ticket place handlers payload
    ∃ offerings, Walk hardware lookup ticket handlers payload offerings ∧
      Event.offerings offered.2.2 =
        (offerings.zipIdx place).map (fun asked => (asked.2, asked.1.payload)) ∧
      offered.2.1.isClaim = offerings.any (·.decision.isClaim) := by
  induction handlers generalizing place payload with
  | nil => exact ⟨[], walk_nil, rfl, rfl⟩
  | cons h rest ih =>
      have hhandler := Event.offerings_eq_nil (h.isControl_offer hardware lookup ⟨ticket, payload⟩)
      rcases hoffer : h.offer hardware lookup ⟨ticket, payload⟩ with ⟨after, decision, events⟩
      rw [hoffer] at hhandler
      have hdecision : (h.offer hardware lookup ⟨ticket, payload⟩).2.1 = decision := by rw [hoffer]
      cases decision with
      | declined next =>
          -- the rest of the chain is asked about what this handler hands on
          obtain ⟨offerings, hwalk, hseen, hclaim⟩ := ih (place + 1) next
          refine ⟨_, hwalk.decline hdecision, ?_, ?_⟩
          · simp [offer, hoffer, hhandler, hseen]
          · simpa [offer, hoffer, Decision.isClaim] using hclaim
      | claimed | deferred =>
          refine ⟨_, .claim hdecision rfl, ?_, ?_⟩
          · simp [offer, hoffer, hhandler]
          · simp [offer, hoffer]

/-- Nobody is asked while the chain is built. -/
theorem offerings_build (hardware : Hardware) (lookup : Lookup) (observers place : Nat)
    (registrations : List Registration) :
    Event.offerings (build hardware lookup observers place registrations).2 = [] := by
  induction registrations generalizing place with
  | nil => rfl
  | cons r rest ih =>
      cases hfactory : r.factory lookup with
      | ok h =>
          have hstart := Event.offerings_eq_nil (h.isControl_start hardware observers)
          simpa [build, hfactory, hstart] using ih (place + 1)
      | error fault => simpa [build, hfactory] using ih (place + 1)

end Chain

/-! ## Completions -/

@[simp]
theorem Event.completions_map_completed (deferred : List (Nat × Result)) :
    completions (deferred.map fun d => .completed d.1 d.2) = deferred := by
  simp [completions]

/-- Nothing is under way at the handler, if it is one that has anything under way. -/
def Handler.IsReady : Handler → Prop
  | generic g => g.Quiet
  | _ => True

/-- The handler completes a command when it claims it, and at no other time. -/
def Decision.Settles (ticket : Nat) (completions : List (Nat × Result)) : Decision → Prop
  | claimed => ∃ result, completions = [(ticket, result)]
  | _ => completions = []

namespace Handler

variable {h : Handler}

theorem IsReady.offer (hready : h.IsReady) (hardware : Hardware) (lookup : Lookup)
    (command : Command) :
    (h.offer hardware lookup command).1.IsReady ∧
      (h.offer hardware lookup command).2.1.Settles command.ticket
        (Event.completions (h.offer hardware lookup command).2.2) := by
  cases h with
  | lgTelevision => exact ⟨trivial, (Chain.lgEvents_unseen lookup command.payload).1⟩
  | generic g => exact Generic.Quiet.handle hready hardware command
  | custom c =>
      simp only [Handler.offer]
      split
      · exact ⟨trivial, _, rfl⟩
      · exact ⟨trivial, rfl⟩
      · exact ⟨trivial, rfl⟩

theorem IsReady.start (hready : h.IsReady) (hardware : Hardware) (observers : Nat) :
    (h.start hardware observers).1.IsReady ∧
      Event.completions (h.start hardware observers).2 = [] := by
  cases h with
  | generic g =>
      have hquiet : Generic.Quiet { g with observers } :=
        ⟨hready.pending, hready.held, hready.isOpen, hready.isRunning⟩
      exact hquiet.settle hardware
  | lgTelevision | custom => exact ⟨trivial, rfl⟩

theorem IsReady.subscribe (hready : h.IsReady) : h.subscribe.IsReady := by
  cases h with
  | generic g => exact ⟨hready.pending, hready.held, hready.isOpen, hready.isRunning⟩
  | lgTelevision | custom => trivial

end Handler

namespace Chain

theorem offer_ready (hardware : Hardware) (lookup : Lookup) (ticket place : Nat)
    {handlers : List Handler} (hready : ∀ h ∈ handlers, h.IsReady) (payload : Payload) :
    let offered := offer hardware lookup ticket place handlers payload
    (∀ h ∈ offered.1, h.IsReady) ∧
      offered.2.1.Settles ticket (Event.completions offered.2.2) := by
  induction handlers generalizing place payload with
  | nil => exact ⟨hready, rfl⟩
  | cons h rest ih =>
      obtain ⟨hhead, hrest⟩ := List.forall_mem_cons.mp hready
      obtain ⟨hafter, hsettles⟩ := hhead.offer hardware lookup ⟨ticket, payload⟩
      rcases hoffer : h.offer hardware lookup ⟨ticket, payload⟩ with ⟨after, decision, events⟩
      rw [hoffer] at hafter hsettles
      cases decision with
      | declined next =>
          obtain ⟨hothers, hlater⟩ := ih (place + 1) hrest next
          have hnone : Event.completions events = [] := hsettles
          simp only [offer, hoffer, Event.completions_offered, Event.completions_append, hnone,
            List.cons_append, List.nil_append]
          exact ⟨List.forall_mem_cons.mpr ⟨hafter, hothers⟩, hlater⟩
      | claimed | deferred =>
          simp only [offer, hoffer, Event.completions_offered]
          exact ⟨List.forall_mem_cons.mpr ⟨hafter, hrest⟩, hsettles⟩

end Chain

/-- What the factory builds has nothing under way. -/
def Registration.BuildsReady (r : Registration) : Prop :=
  ∀ lookup h, r.factory lookup = .ok h → h.IsReady

namespace Chain

theorem buildable_ready {registrations : List Registration}
    (hready : ∀ r ∈ registrations, r.BuildsReady) (lookup : Lookup) :
    ∀ h ∈ buildable lookup registrations, h.IsReady := by
  intro h hmem
  obtain ⟨r, hr, hbuilt⟩ := List.mem_filterMap.mp hmem
  cases hfactory : r.factory lookup with
  | ok built =>
      rw [hfactory, Except.toOption, Option.some_inj] at hbuilt
      exact hready r hr lookup h (hbuilt ▸ hfactory)
  | error fault => simp [hfactory, Except.toOption] at hbuilt

theorem build_ready (hardware : Hardware) (lookup : Lookup) (observers place : Nat)
    {registrations : List Registration} (hready : ∀ r ∈ registrations, r.BuildsReady) :
    let built := build hardware lookup observers place registrations
    (∀ h ∈ built.1.handlers, h.IsReady) ∧ Event.completions built.2 = [] := by
  intro built
  have hbuildable := buildable_ready hready lookup
  refine ⟨?_, ?_⟩
  · rw [build_handlers]
    exact List.forall_mem_map.mpr fun h hmem => ((hbuildable h hmem).start hardware observers).1
  · rw [Event.completions, filterMap_build hardware lookup observers place registrations
      fun _ => rfl, List.filterMap_flatMap, List.flatMap_eq_nil_iff]
    exact fun h hmem => ((hbuildable h hmem).start hardware observers).2

end Chain

namespace Controller

/-- Nothing is under way at any handler, built or not. -/
structure IsReady (c : Controller) : Prop where
  handlers : ∀ h ∈ c.handlers, h.IsReady
  registrations : ∀ r ∈ c.registrations, r.BuildsReady

/-- What dispatching a command does: it is offered along the chain and completed once, now or by the
handler that has put it off. -/
structure Dispatches (c : Controller) (hardware : Hardware) (command : Command)
    (offerings : List Offering) : Prop where
  walk : Chain.Walk hardware (c.setUp hardware).1.device? command.ticket
    (c.setUp hardware).2.1.handlers command.payload offerings
  offerings_eq : Event.offerings (c.dispatch hardware command).2.2 =
    offerings.zipIdx.map fun asked => (asked.2, asked.1.payload)
  isClaimed_eq : (c.dispatch hardware command).2.1 = offerings.any (·.decision.isClaim)
  completed : ∃ result,
    Event.completions (c.dispatch hardware command).2.2 = [(command.ticket, result)] ∧
        (c.dispatch hardware command).1.deferred = c.deferred ∨
      Event.completions (c.dispatch hardware command).2.2 = [] ∧
        (c.dispatch hardware command).1.deferred = c.deferred ++ [(command.ticket, result)]
  unclaimed : (c.dispatch hardware command).2.1 = false →
    Event.completions (c.dispatch hardware command).2.2 =
      [(command.ticket, .failure command.payload.kind .unknown)]

variable {c : Controller} {hardware : Hardware}

theorem offerings_setUp (hardware : Hardware) (c : Controller) :
    Event.offerings (c.setUp hardware).2.2 = [] := by
  cases hchain : c.chain? with
  | some chain => rw [setUp_of_chain hchain]; rfl
  | none =>
      simp only [setUp, hchain]
      exact Chain.offerings_build hardware _ _ 0 c.registrations

theorem deferred_setUp (hardware : Hardware) (c : Controller) :
    (c.setUp hardware).1.deferred = c.deferred := by
  cases hchain : c.chain? <;> simp [setUp, hchain]

theorem IsReady.setUp (hready : c.IsReady) (hardware : Hardware) :
    (c.setUp hardware).1.IsReady ∧ (∀ h ∈ (c.setUp hardware).2.1.handlers, h.IsReady) ∧
      Event.completions (c.setUp hardware).2.2 = [] := by
  cases hchain : c.chain? with
  | some chain =>
      have hhandlers := hready.handlers
      simp only [Controller.handlers, hchain, Option.map_some, Option.getD_some] at hhandlers
      rw [setUp_of_chain hchain]
      exact ⟨hready, hhandlers, rfl⟩
  | none =>
      obtain ⟨hhandlers, hcompletions⟩ :=
        Chain.build_ready hardware c.device? c.observers 0 hready.registrations
      simp only [Controller.setUp, hchain]
      exact ⟨⟨hhandlers, by simp⟩, hhandlers, hcompletions⟩

/-- What goes along the chain is completed by the handler that claims it, now or later, or failed
when nobody does. -/
theorem completed_of_settles {decision : Decision} {command : Command} {events : List Event}
    (hsettles : decision.Settles command.ticket (Event.completions events)) :
    (∃ result, Event.completions (events ++ decision.completion command) =
          [(command.ticket, result)] ∧ decision.deferral command.ticket = [] ∨
        Event.completions (events ++ decision.completion command) = [] ∧
          decision.deferral command.ticket = [(command.ticket, result)]) ∧
      (decision.isClaim = false → Event.completions (events ++ decision.completion command) =
        [(command.ticket, .failure command.payload.kind .unknown)]) := by
  rw [Event.completions_append]
  cases decision with
  | claimed =>
      obtain ⟨result, hresult⟩ := hsettles
      exact ⟨⟨result, .inl ⟨by rw [hresult]; rfl, rfl⟩⟩, nofun⟩
  | deferred result =>
      have hnone : Event.completions events = [] := hsettles
      exact ⟨⟨result, .inr ⟨by rw [hnone]; rfl, rfl⟩⟩, nofun⟩
  | declined payload =>
      have hnone : Event.completions events = [] := hsettles
      have hfailed : Event.completions events ++ Event.completions
          (Decision.completion command (.declined payload)) =
            [(command.ticket, .failure command.payload.kind .unknown)] := by
        rw [hnone]
        rfl
      exact ⟨⟨_, .inl ⟨hfailed, rfl⟩⟩, fun _ => hfailed⟩

theorem IsReady.dispatch (hready : c.IsReady) (hardware : Hardware) (command : Command) :
    (c.dispatch hardware command).1.IsReady ∧
      ∃ offerings, c.Dispatches hardware command offerings := by
  obtain ⟨hbuilt, hhandlers, hnothing⟩ := hready.setUp hardware
  obtain ⟨hafter, hsettles⟩ := Chain.offer_ready hardware (c.setUp hardware).1.device?
    command.ticket 0 hhandlers command.payload
  obtain ⟨offerings, hwalk, hofferings, hclaim⟩ := Chain.exists_walk hardware
    (c.setUp hardware).1.device? command.ticket 0 (c.setUp hardware).2.1.handlers command.payload
  have hdispatch := dispatch_eq hardware c command
  rcases hoffered : Chain.offer hardware (c.setUp hardware).1.device? command.ticket 0
    (c.setUp hardware).2.1.handlers command.payload with ⟨handlers, decision, events⟩
  simp only [hoffered] at hdispatch hafter hsettles hofferings hclaim
  obtain ⟨⟨result, hcompleted⟩, hunclaimed⟩ := completed_of_settles hsettles
  have hcompletions : Event.completions (c.dispatch hardware command).2.2 =
      Event.completions (events ++ decision.completion command) := by
    rw [hdispatch, Event.completions_append, hnothing, List.nil_append]
  have hdeferred : (c.dispatch hardware command).1.deferred =
      c.deferred ++ decision.deferral command.ticket := by
    rw [hdispatch, deferred_setUp]
  refine ⟨?_, offerings, hwalk, ?_, ?_, ⟨result, ?_⟩, ?_⟩
  · rw [hdispatch]
    exact ⟨hafter, hbuilt.registrations⟩
  · have hlast : Event.offerings (decision.completion command) = [] := by cases decision <;> rfl
    rw [hdispatch, Event.offerings_append, offerings_setUp, List.nil_append, Event.offerings_append,
      hlast, List.append_nil, hofferings]
  · rw [hdispatch, hclaim]
  · rw [hcompletions, hdeferred]
    refine hcompleted.imp (fun hnow => ⟨hnow.1, ?_⟩) fun hlater => ⟨hlater.1, ?_⟩
    · rw [hnow.2, List.append_nil]
    · rw [hlater.2]
  · rw [hcompletions, hdispatch]
    exact hunclaimed

/-! ## Runs -/

def Step.BuildsReady : Step → Prop
  | .register r => r.BuildsReady
  | _ => True

/-- The commands that the call dispatches. -/
def Step.commands : Step → List Command
  | .dispatch _ command => [command]
  | _ => []

theorem IsReady.register (hready : c.IsReady) {r : Registration} (hr : r.BuildsReady) :
    (c.register r).IsReady where
  handlers := hready.handlers
  registrations := by
    refine List.forall_mem_append.mpr ⟨fun other hother => ?_, List.forall_mem_cons.mpr ⟨hr, ?_⟩⟩
    · exact hready.registrations other (List.takeWhile_subset _ hother)
    · exact fun other hother => hready.registrations other (List.dropWhile_subset _ hother)

theorem IsReady.subscribe (hready : c.IsReady) : c.subscribe.IsReady where
  handlers := by
    have hhandlers := hready.handlers
    unfold Controller.handlers at hhandlers ⊢
    cases hchain : c.chain? with
    | none => simp [Controller.subscribe, hchain]
    | some chain =>
        simp only [hchain, Option.map_some, Option.getD_some] at hhandlers
        simp only [Controller.subscribe, hchain, Option.map_some, Option.getD_some]
        exact List.forall_mem_map.mpr fun h hmem => (hhandlers h hmem).subscribe
  registrations := hready.registrations

/-- A command that is dispatched is completed, or waits for the handler that has put it off; what
waits is completed or goes on waiting. -/
theorem IsReady.step (hready : c.IsReady) {s : Step} (hs : s.BuildsReady) :
    (c.step s).1.IsReady ∧
      ((Event.completions (c.step s).2.2).map (·.1) ++
        (c.step s).1.deferred.map (·.1)).Perm
          (c.deferred.map (·.1) ++ s.commands.map (·.ticket)) := by
  cases s with
  | register r =>
      refine ⟨hready.register hs, ?_⟩
      simp [Controller.step, Controller.register, Step.commands]
  | build hardware =>
      obtain ⟨hbuilt, -, hnothing⟩ := hready.setUp hardware
      refine ⟨hbuilt, ?_⟩
      simp [Controller.step, hnothing, deferred_setUp, Step.commands]
  | dispatch hardware command =>
      obtain ⟨hafter, offerings, hdispatches⟩ := hready.dispatch hardware command
      refine ⟨hafter, ?_⟩
      obtain ⟨result, ⟨hcompletions, hdeferred⟩ | ⟨hcompletions, hdeferred⟩⟩ :=
        hdispatches.completed
      · simp only [Controller.step, hcompletions, hdeferred]
        exact List.perm_append_comm
      · simp [Controller.step, hcompletions, hdeferred, Step.commands]
  | subscribe =>
      refine ⟨hready.subscribe, ?_⟩
      simp [Controller.step, Controller.subscribe, Step.commands]
  | completeDeferred =>
      refine ⟨⟨hready.handlers, hready.registrations⟩, ?_⟩
      simp [Controller.step, completeDeferred, Step.commands]

theorem IsReady.run (hready : c.IsReady) {steps : List Step} (hsteps : ∀ s ∈ steps, s.BuildsReady) :
    (c.run steps).1.IsReady ∧
      ((Event.completions (c.run steps).2).map (·.1) ++ (c.run steps).1.deferred.map (·.1)).Perm
        (c.deferred.map (·.1) ++ (steps.flatMap (·.commands)).map (·.ticket)) := by
  induction steps generalizing c with
  | nil => exact ⟨hready, by simp [Controller.run]⟩
  | cons s rest ih =>
      obtain ⟨hs, hrest⟩ := List.forall_mem_cons.mp hsteps
      obtain ⟨hnext, hstep⟩ := hready.step hs
      obtain ⟨hnow, hlater⟩ := ih hnext hrest
      refine ⟨hnow, ?_⟩
      simp only [Controller.run, Event.completions_append, List.map_append, List.flatMap_cons,
        List.append_assoc]
      refine (hlater.append_left _).trans ?_
      rw [← List.append_assoc, ← List.append_assoc]
      exact hstep.append_right _

end Controller

/-- Every command that is dispatched goes along the chain to the first handler that claims it, and
is completed once. -/
theorem dispatch_follows_chain (c : Controller) (hready : c.IsReady) (steps : List Controller.Step)
    (hsteps : ∀ s ∈ steps, s.BuildsReady) :
    let now := (c.run steps).1
    let seen := (c.run steps).2
    (∀ hardware command, ∃ offerings, now.Dispatches hardware command offerings) ∧
      ((Event.completions seen).map (·.1) ++ now.deferred.map (·.1)).Perm
        (c.deferred.map (·.1) ++ (steps.flatMap (·.commands)).map (·.ticket)) := by
  intro now seen
  obtain ⟨hnow, hcompleted⟩ := hready.run hsteps
  exact ⟨fun hardware command => (hnow.dispatch hardware command).2, hcompleted⟩

/-- A handler that has a key read instead of written, and puts off scans. -/
def rewriter : Custom where
  name := "rewriter"
  rank := .samsung
  verdict
    | _, .setConfig key _ adapter => .decline (.getConfig key adapter)
    | _, .scan _ => .defer (.empty .scan)
    | _, payload => .decline payload

def rewritingChain : Controller where
  chain? := some ⟨[.lgTelevision, .custom rewriter, .generic { defaultAdapter := "RPI" }], true⟩

theorem rewritingChain_followed :
    let hardware := Hardware.scripted (.ok ()) fun _ => .ok .notImplemented
    let steps : List Controller.Step :=
      [.dispatch hardware ⟨0, .scan none⟩, .dispatch hardware ⟨1, .setConfig "osd_name" "TV" none⟩,
        .completeDeferred]
    let now := (rewritingChain.run steps).1
    let seen := (rewritingChain.run steps).2
    rewritingChain.IsReady ∧
      (∀ hardware command, ∃ offerings, now.Dispatches hardware command offerings) ∧
      ((Event.completions seen).map (·.1) ++ now.deferred.map (·.1)).Perm [0, 1] ∧
      Event.offerings seen =
        [(0, .scan none), (1, .scan none), (0, .setConfig "osd_name" "TV" none),
          (1, .setConfig "osd_name" "TV" none), (2, .getConfig "osd_name" none)] ∧
      (Event.completions seen).map (·.1) = [1, 0] := by
  intro hardware steps now seen
  have hquiet : Generic.Quiet { defaultAdapter := "RPI" } := ⟨rfl, rfl, rfl, nofun⟩
  have hready : rewritingChain.IsReady :=
    ⟨by simp [rewritingChain, Controller.handlers, Handler.IsReady, hquiet],
      by simp [rewritingChain]⟩
  have hsteps : ∀ s ∈ steps, s.BuildsReady := by simp [steps, Controller.Step.BuildsReady]
  obtain ⟨hnext, hcompleted⟩ := dispatch_follows_chain rewritingChain hready steps hsteps
  exact ⟨hready, hnext, hcompleted, by decide +kernel, by decide +kernel⟩

end CecGateway
