import CecGateway.Proofs.Controller.Dispatch
import Mathlib.Logic.Equiv.Basic

/-!
# Tickets are names

A ticket tells commands apart and nothing else. If the tickets are renamed that a controller holds
and the ticket of a command that it is given, it does what it did before, and the completions bear
the new names (`dispatch_renamed`).
-/

namespace CecGateway

section

variable (f : Nat → Nat)

def Command.renamed (c : Command) : Command := { c with ticket := f c.ticket }

def Pending.renamed (p : Pending) : Pending := { p with command := p.command.renamed f }

def Event.renamed : Event → Event
  | .completed ticket result => .completed (f ticket) result
  | e => e

def Generic.renamed (g : Generic) : Generic := { g with pending := g.pending.map (·.renamed f) }

def Handler.renamed : Handler → Handler
  | .generic g => .generic (g.renamed f)
  | h => h

def Chain.renamed (chain : Chain) : Chain :=
  { chain with handlers := chain.handlers.map (·.renamed f) }

theorem Event.map_renamed {events : List Event} (hnothing : completions events = []) :
    events.map (·.renamed f) = events := by
  refine (List.map_congr_left fun e he => ?_).trans (List.map_id _)
  cases e with
  | completed ticket result =>
      have hmem : (ticket, result) ∈ completions events :=
        List.mem_filterMap.mpr ⟨_, he, rfl⟩
      rw [hnothing] at hmem
      exact absurd hmem List.not_mem_nil
  | _ => rfl

/-! ## The generic handler -/

namespace Generic

variable (g : Generic)

theorem pending?_renamed (seq : Nat) :
    (g.renamed f).pending? seq = (g.pending? seq).map (·.renamed f) := by
  simp only [pending?, renamed, List.find?_map]
  rfl

theorem forget_renamed (seq : Nat) : (g.renamed f).forget seq = (g.forget seq).renamed f := by
  simp only [forget, renamed, List.eraseP_map]
  rfl

theorem apply_renamed (result : Result) :
    (g.renamed f).apply result = ((g.apply result).1.renamed f, (g.apply result).2) := by
  unfold apply
  split <;> rfl

theorem onReply_renamed (reply : Reply) :
    (g.renamed f).onReply reply =
      ((g.onReply reply).1.renamed f, (g.onReply reply).2.map (·.renamed f)) := by
  cases hpending : g.pending? reply.seq with
  | none =>
      have hnone : (g.renamed f).pending? reply.seq = none := by
        rw [pending?_renamed, hpending, Option.map_none]
      rw [onReply_of_none hpending, onReply_of_none hnone]
      rfl
  | some p =>
      have hsome : (g.renamed f).pending? reply.seq = some (p.renamed f) := by
        rw [pending?_renamed, hpending, Option.map_some]
      have hresult : resultOf (p.renamed f) reply.outcome = resultOf p reply.outcome := by
        cases reply.outcome <;> rfl
      rw [onReply_of_some hpending, onReply_of_some hsome, hresult, forget_renamed, apply_renamed,
        List.map_append, Event.map_renamed f (completions_apply _ _)]
      rfl

theorem onQueueEvent_renamed (e : Queue.Event) :
    (g.renamed f).onQueueEvent e =
      ((g.onQueueEvent e).1.renamed f, (g.onQueueEvent e).2.map (·.renamed f)) := by
  cases e with
  | reply reply => exact g.onReply_renamed f reply
  | call | accepted | refused => rfl

theorem onQueueEvents_renamed (events : List Queue.Event) :
    (g.renamed f).onQueueEvents events =
      ((g.onQueueEvents events).1.renamed f, (g.onQueueEvents events).2.map (·.renamed f)) := by
  induction events generalizing g with
  | nil => rfl
  | cons e rest ih => simp [onQueueEvents, onQueueEvent_renamed, ih]

theorem work_renamed (step : Queue.Step) :
    (g.renamed f).work step =
      (g.work step).map fun next => (next.1.renamed f, next.2.map (·.renamed f)) := by
  simp only [work]
  cases hstep : g.queue.step step with
  | none => simp [renamed, hstep]
  | some next =>
      have hwork := onQueueEvents_renamed f { g with queue := next.1 } next.2
      simp only [renamed] at hwork ⊢
      simp [hstep, hwork]

theorem settle_go_renamed (hardware : Hardware) (isHeld : Bool) (fuel : Nat) :
    settle.go hardware isHeld fuel (g.renamed f) =
      ((settle.go hardware isHeld fuel g).1.renamed f,
        (settle.go hardware isHeld fuel g).2.map (·.renamed f)) := by
  induction fuel generalizing g with
  | zero => rfl
  | succ fuel ih =>
      have hdue : (g.renamed f).queue.due hardware isHeld = g.queue.due hardware isHeld := rfl
      simp only [settle.go, hdue]
      cases g.queue.due hardware isHeld with
      | none => rfl
      | some step =>
          simp only [Option.bind_some, work_renamed]
          cases g.work step with
          | none => rfl
          | some next => simp [ih]

theorem settle_renamed (hardware : Hardware) (isHeld : Bool) :
    (g.renamed f).settle hardware isHeld =
      ((g.settle hardware isHeld).1.renamed f,
        (g.settle hardware isHeld).2.map (·.renamed f)) :=
  g.settle_go_renamed f hardware isHeld g.queue.stepsLeft

theorem submit_renamed (seq : Nat) (payload : Payload) :
    (g.renamed f).submit seq payload =
      ((g.submit seq payload).1.renamed f, (g.submit seq payload).2.map (·.renamed f)) := by
  have hsubmit : (g.renamed f).queue.submit? ((g.renamed f).messageOf seq payload) =
      g.queue.submit? (g.messageOf seq payload) := rfl
  simp only [submit, hsubmit, pending?_renamed]
  cases g.queue.submit? (g.messageOf seq payload) with
  | some queue => rfl
  | none =>
      cases g.pending? seq with
      | none => rfl
      | some p =>
          simp only [Option.map_some, forget_renamed]
          rfl

theorem handle_renamed (command : Command) :
    (g.renamed f).handle (command.renamed f) =
      ((g.handle command).1.renamed f, (g.handle command).2.map (·.renamed f)) := by
  have hvalidate : (g.renamed f).validate (command.renamed f).payload =
      g.validate command.payload := rfl
  simp only [handle, hvalidate]
  cases g.validate command.payload with
  | error why => rfl
  | ok =>
      have hrecord : ((g.renamed f).allocate.2.record g.allocate.1 (command.renamed f)) =
          (g.allocate.2.record g.allocate.1 command).renamed f := by
        simp [record, allocate, renamed, Pending.renamed, Command.renamed]
      exact hrecord ▸ submit_renamed f _ g.allocate.1 command.payload

end Generic

/-! ## Handlers -/

/-- The tickets of the commands that the handler has not completed. -/
def Handler.tickets : Handler → List Nat
  | generic g => g.pending.map (·.command.ticket)
  | _ => []

/-- Where the handler has commands under way, the worker has their messages. -/
def Handler.IsSteady : Handler → Prop
  | generic g => g.Steady
  | _ => True

namespace Handler

variable {h : Handler}

theorem device?_renamed (h : Handler) : (h.renamed f).device? = h.device? := by
  cases h <;> rfl

theorem offer_renamed (hardware : Hardware) (lookup : Lookup) (command : Command) (h : Handler) :
    (h.renamed f).offer hardware lookup (command.renamed f) =
      ((h.offer hardware lookup command).1.renamed f, (h.offer hardware lookup command).2.1,
        (h.offer hardware lookup command).2.2.map (·.renamed f)) := by
  cases h with
  | lgTelevision =>
      have hlg := Event.map_renamed f (Chain.lgEvents_unseen lookup command.payload).1
      simp only [offer, hlg]
      rfl
  | generic g =>
      simp only [renamed, offer, g.handle_renamed f, Generic.settle_renamed, List.map_append]
  | custom c =>
      simp only [renamed, offer]
      have hpayload : (command.renamed f).payload = command.payload := rfl
      rw [hpayload]
      cases c.verdict c.offers command.payload <;> rfl

theorem renamed_of_fixed (hfixed : ∀ ticket ∈ h.tickets, f ticket = ticket) :
    h.renamed f = h := by
  cases h with
  | generic g =>
      have hpending : g.pending.map (·.renamed f) = g.pending := by
        refine (List.map_congr_left fun p hp => ?_).trans (List.map_id _)
        have hticket := hfixed _ (List.mem_map_of_mem hp)
        simp only [Pending.renamed, Command.renamed, hticket]
        rfl
      simp only [renamed, Generic.renamed, hpending]
  | lgTelevision | custom => rfl

theorem IsReady.tickets_eq (hready : h.IsReady) : h.tickets = [] := by
  cases h with
  | generic g => exact List.map_eq_nil_iff.mpr hready.pending
  | lgTelevision | custom => rfl

theorem IsReady.isSteady (hready : h.IsReady) : h.IsSteady := by
  cases h with
  | generic g => exact Generic.Quiet.steady hready
  | lgTelevision | custom => trivial

/-- Whoever's commands were under way, a handler that is offered one more completes them all. -/
theorem IsSteady.offer (hsteady : h.IsSteady) (hardware : Hardware) (lookup : Lookup)
    (command : Command) : (h.offer hardware lookup command).1.IsReady := by
  cases h with
  | lgTelevision => trivial
  | generic g => exact Generic.Steady.handle hsteady hardware command
  | custom c =>
      simp only [Handler.offer]
      split <;> trivial

end Handler

/-! ## Chains -/

namespace Chain

theorem offer_renamed (hardware : Hardware) (lookup : Lookup) (ticket place : Nat)
    (handlers : List Handler) (payload : Payload) :
    let offered := offer hardware lookup ticket place handlers payload
    offer hardware lookup (f ticket) place (handlers.map (·.renamed f)) payload =
      (offered.1.map (·.renamed f), offered.2.1, offered.2.2.map (·.renamed f)) := by
  induction handlers generalizing place payload with
  | nil => rfl
  | cons h rest ih =>
      have hrenamed := h.offer_renamed f hardware lookup ⟨ticket, payload⟩
      simp only [Command.renamed] at hrenamed
      rcases hoffer : h.offer hardware lookup ⟨ticket, payload⟩ with ⟨after, decision, events⟩
      rw [hoffer] at hrenamed
      cases decision with
      | declined next => simp [offer, hoffer, hrenamed, ih, Event.renamed]
      | claimed | deferred => simp [offer, hoffer, hrenamed, Event.renamed]

theorem offer_steady (hardware : Hardware) (lookup : Lookup) (ticket place : Nat)
    {handlers : List Handler} (hsteady : ∀ h ∈ handlers, h.IsSteady) (payload : Payload) :
    let offered := offer hardware lookup ticket place handlers payload
    (∀ h ∈ offered.1, h.IsSteady) ∧
      offered.1.flatMap (·.tickets) ⊆ handlers.flatMap (·.tickets) := by
  induction handlers generalizing place payload with
  | nil => exact ⟨hsteady, List.Subset.refl _⟩
  | cons h rest ih =>
      obtain ⟨hhead, hrest⟩ := List.forall_mem_cons.mp hsteady
      have hafter := hhead.offer hardware lookup ⟨ticket, payload⟩
      rcases hoffer : h.offer hardware lookup ⟨ticket, payload⟩ with ⟨after, decision, events⟩
      rw [hoffer] at hafter
      have hnone := hafter.tickets_eq
      cases decision with
      | declined next =>
          obtain ⟨hothers, htickets⟩ := ih (place + 1) hrest next
          simp only [offer, hoffer, List.flatMap_cons, hnone, List.nil_append]
          exact ⟨List.forall_mem_cons.mpr ⟨hafter.isSteady, hothers⟩,
            List.subset_append_of_subset_right _ htickets⟩
      | claimed | deferred =>
          simp only [offer, hoffer, List.flatMap_cons, hnone, List.nil_append]
          exact ⟨List.forall_mem_cons.mpr ⟨hafter.isSteady, hrest⟩, List.subset_append_right _ _⟩

theorem renamed_of_fixed {chain : Chain}
    (hfixed : ∀ ticket ∈ chain.handlers.flatMap (·.tickets), f ticket = ticket) :
    chain.renamed f = chain := by
  have hhandlers : chain.handlers.map (·.renamed f) = chain.handlers := by
    refine (List.map_congr_left fun h hh => ?_).trans (List.map_id _)
    exact h.renamed_of_fixed f fun ticket hticket =>
      hfixed ticket (List.mem_flatMap.mpr ⟨h, hh, hticket⟩)
  simp only [renamed, hhandlers]

/-- What is built has no command yet. -/
theorem build_renamed (hardware : Hardware) (lookup : Lookup) (observers place : Nat)
    {registrations : List Registration} (hbuilds : ∀ r ∈ registrations, r.BuildsReady) :
    let built := build hardware lookup observers place registrations
    built.1.renamed f = built.1 ∧ built.2.map (·.renamed f) = built.2 := by
  intro built
  obtain ⟨hready, hnothing⟩ := build_ready hardware lookup observers place hbuilds
  have htickets : built.1.handlers.flatMap (·.tickets) = [] :=
    List.flatMap_eq_nil_iff.mpr fun h hh => (hready h hh).tickets_eq
  exact ⟨renamed_of_fixed f (by simp [htickets]), Event.map_renamed f hnothing⟩

end Chain

/-! ## Controllers -/

namespace Controller

def renamed (c : Controller) : Controller :=
  { c with
    chain? := c.chain?.map (·.renamed f)
    deferred := c.deferred.map fun d => (f d.1, d.2) }

/-- The tickets of the commands that are under way at some handler. -/
def tickets (c : Controller) : List Nat := c.handlers.flatMap (·.tickets)

/-- Commands may be under way at the handlers, none at those that will be built. -/
structure IsSteady (c : Controller) : Prop where
  handlers : ∀ h ∈ c.handlers, h.IsSteady
  registrations : ∀ r ∈ c.registrations, r.BuildsReady

/-- The same controller, but that put-off commands may bear other names. -/
structure Alike (c other : Controller) : Prop where
  registrations_eq : c.registrations = other.registrations
  chain?_eq : c.chain? = other.chain?
  observers_eq : c.observers = other.observers
  deferred_eq : c.deferred.map (·.2) = other.deferred.map (·.2)

variable {c : Controller}

theorem device?_renamed (c : Controller) : (c.renamed f).device? = c.device? := by
  funext address
  unfold device? handlers renamed
  cases c.chain? with
  | none => rfl
  | some chain =>
      simp only [Option.map_some, Option.getD_some, Chain.renamed, List.getLast?_map]
      cases chain.handlers.getLast? with
      | none => rfl
      | some h => exact congrFun (h.device?_renamed f) address

theorem setUp_renamed (hbuilds : ∀ r ∈ c.registrations, r.BuildsReady) (hardware : Hardware) :
    (c.renamed f).setUp hardware =
      ((c.setUp hardware).1.renamed f, (c.setUp hardware).2.1.renamed f,
        (c.setUp hardware).2.2.map (·.renamed f)) := by
  cases hchain : c.chain? with
  | some chain =>
      have hrenamed : (c.renamed f).chain? = some (chain.renamed f) := by simp [renamed, hchain]
      rw [setUp_of_chain hchain, setUp_of_chain hrenamed]
      rfl
  | none =>
      have hrenamed : (c.renamed f).chain? = none := by simp [renamed, hchain]
      have hdevice := c.device?_renamed f
      obtain ⟨hbuilt, hevents⟩ :=
        Chain.build_renamed f hardware c.device? c.observers 0 hbuilds
      simp only [setUp, hchain, hrenamed, hdevice, hevents]
      simp only [renamed, Option.map_some, hbuilt]

theorem dispatch_renamed (hbuilds : ∀ r ∈ c.registrations, r.BuildsReady) (hardware : Hardware)
    (command : Command) :
    (c.renamed f).dispatch hardware (command.renamed f) =
      ((c.dispatch hardware command).1.renamed f, (c.dispatch hardware command).2.1,
        (c.dispatch hardware command).2.2.map (·.renamed f)) := by
  have hsetUp := setUp_renamed f hbuilds hardware
  have hoffered := Chain.offer_renamed f hardware (c.setUp hardware).1.device? command.ticket 0
    (c.setUp hardware).2.1.handlers command.payload
  rw [dispatch_eq, dispatch_eq, hsetUp, device?_renamed]
  simp only [Command.renamed, Chain.renamed, renamed, hoffered]
  cases (Chain.offer hardware (c.setUp hardware).1.device? command.ticket 0
    (c.setUp hardware).2.1.handlers command.payload).2.1 <;>
      simp [Decision.deferral, Decision.completion, Event.renamed]

end Controller

end

namespace Controller

variable {c other : Controller}

theorem Alike.symm (h : c.Alike other) : other.Alike c :=
  ⟨h.registrations_eq.symm, h.chain?_eq.symm, h.observers_eq.symm, h.deferred_eq.symm⟩

theorem Alike.trans {third : Controller} (h : c.Alike other) (hthird : other.Alike third) :
    c.Alike third :=
  ⟨h.registrations_eq.trans hthird.registrations_eq, h.chain?_eq.trans hthird.chain?_eq,
    h.observers_eq.trans hthird.observers_eq, h.deferred_eq.trans hthird.deferred_eq⟩

theorem Alike.handlers_eq (h : c.Alike other) : c.handlers = other.handlers := by
  rw [handlers, handlers, h.chain?_eq]

theorem Alike.device?_eq (h : c.Alike other) : c.device? = other.device? := by
  funext address
  rw [device?, device?, h.handlers_eq]

theorem Alike.setUp (h : c.Alike other) (hardware : Hardware) :
    (c.setUp hardware).1.Alike (other.setUp hardware).1 ∧
      (c.setUp hardware).2 = (other.setUp hardware).2 := by
  have hdevice := h.device?_eq
  obtain ⟨hregistrations, hchain, hobservers, hdeferred⟩ := h
  cases hother : other.chain? with
  | some chain =>
      rw [setUp_of_chain hother, setUp_of_chain (hchain.trans hother)]
      exact ⟨⟨hregistrations, hchain, hobservers, hdeferred⟩, rfl⟩
  | none =>
      simp only [Controller.setUp, hchain, hother, hdevice, hregistrations, hobservers]
      exact ⟨⟨rfl, rfl, rfl, hdeferred⟩, trivial⟩

theorem Alike.dispatch (h : c.Alike other) (hardware : Hardware) (command : Command) :
    (c.dispatch hardware command).1.Alike (other.dispatch hardware command).1 ∧
      (c.dispatch hardware command).2 = (other.dispatch hardware command).2 := by
  obtain ⟨hbuilt, hchain⟩ := h.setUp hardware
  have hdevice := hbuilt.device?_eq
  rw [dispatch_eq, dispatch_eq, hchain, hdevice]
  refine ⟨⟨hbuilt.registrations_eq, rfl, hbuilt.observers_eq, ?_⟩, rfl⟩
  simp only [List.map_append, hbuilt.deferred_eq]

theorem renamed_alike (f : Nat → Nat) (hfixed : ∀ ticket ∈ c.tickets, f ticket = ticket) :
    (c.renamed f).Alike c where
  registrations_eq := rfl
  chain?_eq := by
    cases hchain : c.chain? with
    | none => simp [renamed, hchain]
    | some chain =>
        have hhandlers : c.handlers = chain.handlers := by simp [handlers, hchain]
        rw [tickets, hhandlers] at hfixed
        simp [renamed, hchain, Chain.renamed_of_fixed f hfixed]
  observers_eq := rfl
  deferred_eq := by simp [renamed, Function.comp_def]

theorem IsSteady.setUp (hsteady : c.IsSteady) (hardware : Hardware) :
    (c.setUp hardware).1.IsSteady ∧ (c.setUp hardware).1.tickets ⊆ c.tickets ∧
      (c.setUp hardware).2.1.handlers = (c.setUp hardware).1.handlers := by
  cases hchain : c.chain? with
  | some chain =>
      rw [setUp_of_chain hchain]
      exact ⟨hsteady, List.Subset.refl _, by simp [Controller.handlers, hchain]⟩
  | none =>
      obtain ⟨hready, -⟩ :=
        Chain.build_ready hardware c.device? c.observers 0 hsteady.registrations
      simp only [Controller.setUp, hchain]
      refine ⟨⟨fun h hh => (hready h hh).isSteady, by simp⟩, ?_, rfl⟩
      have htickets : (Chain.build hardware c.device? c.observers 0
          c.registrations).1.handlers.flatMap (·.tickets) = [] :=
        List.flatMap_eq_nil_iff.mpr fun h hh => (hready h hh).tickets_eq
      simp [tickets, Controller.handlers, htickets]

/-- A command leaves no names behind at the handlers. -/
theorem IsSteady.dispatch (hsteady : c.IsSteady) (hardware : Hardware) (command : Command) :
    (c.dispatch hardware command).1.IsSteady ∧
      (c.dispatch hardware command).1.tickets ⊆ c.tickets := by
  obtain ⟨hbuilt, htickets, hhandlers⟩ := hsteady.setUp hardware
  have hoffered := Chain.offer_steady hardware (c.setUp hardware).1.device? command.ticket 0
    hbuilt.handlers command.payload
  rw [dispatch_eq, hhandlers]
  exact ⟨⟨hoffered.1, hbuilt.registrations⟩, List.Subset.trans hoffered.2 htickets⟩

/-- A command under another ticket does the same, if neither ticket is in use. -/
theorem Alike.dispatch_under (h : c.Alike other) (hsteady : c.IsSteady) (hardware : Hardware)
    (payload : Payload) {ticket another : Nat} (hticket : ticket ∉ c.tickets)
    (hanother : another ∉ c.tickets) :
    let dispatched := c.dispatch hardware ⟨ticket, payload⟩
    let dispatchedOther := other.dispatch hardware ⟨another, payload⟩
    dispatched.1.Alike dispatchedOther.1 ∧ dispatched.2.1 = dispatchedOther.2.1 ∧
      dispatched.2.2.map (·.renamed (Equiv.swap ticket another)) = dispatchedOther.2.2 := by
  intro dispatched dispatchedOther
  set f := Equiv.swap ticket another
  have hfixed : ∀ t ∈ c.tickets, f t = t := fun t ht =>
    Equiv.swap_apply_of_ne_of_ne (by rintro rfl; contradiction) (by rintro rfl; contradiction)
  have hcommand : (⟨ticket, payload⟩ : Command).renamed f = ⟨another, payload⟩ := by
    simp [Command.renamed, f]
  have hrenamed := dispatch_renamed f hsteady.registrations hardware ⟨ticket, payload⟩
  rw [hcommand] at hrenamed
  obtain ⟨hafter, hsame⟩ := ((renamed_alike f hfixed).trans h).dispatch hardware ⟨another, payload⟩
  rw [hrenamed] at hafter hsame
  obtain ⟨-, hsubset⟩ := hsteady.dispatch hardware ⟨ticket, payload⟩
  have hback := (renamed_alike f fun t ht => hfixed t (hsubset ht)).symm
  exact ⟨hback.trans hafter, congrArg (·.1) hsame, congrArg (·.2) hsame⟩

end Controller

end CecGateway
