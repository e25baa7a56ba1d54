import CecGateway.Handler
import CecGateway.Proofs.Controller
import CecGateway.Proofs.Delivery

/-!
# The watcher, step by step

A command of the chain is looked at by the watcher for LG televisions and then comes to the generic
handler; the worker and other calls may go on in between. Whatever is possible with the watcher is
possible without, and the other way round.
-/

namespace CecGateway

namespace Relay

variable {r next : Relay} {s : Step} {events : List Event}

def Step.isOffer : Step → Bool
  | .traffic (.offer _) => true
  | _ => false

theorem step_offer (r : Relay) (command : Command) :
    r.step (.traffic (.offer command)) =
      some ({ r with traffic := (r.traffic.enter command).1 }, (r.traffic.enter command).2) := rfl

/-- What the observers are still to be told is nothing of the controller's or the watcher's. -/
def TellsDeeds (r : Relay) : Prop :=
  ∀ command result left, r.delivery? = some ⟨command, result, .telling left⟩ →
    ∀ e ∈ left, e.isDeed = true

theorem isDeed_announcements (observers : Nat) (result : Result) :
    ∀ e ∈ announcements observers result, e.isDeed = true := by
  unfold announcements
  split <;> simp [Event.isDeed]

theorem Effect.isDeed (h : r.Effect s next events) (htells : r.TellsDeeds) :
    next.TellsDeeds ∧ ∀ e ∈ events, e.isDeed = true := by
  cases h with
  | traffic hfinish heffect => exact ⟨htells, heffect.isDeed⟩
  | dropped hidle hworker hpending => exact ⟨htells, List.forall_mem_nil _⟩
  | received | folded => exact ⟨by simp [TellsDeeds, delivering], List.forall_mem_nil _⟩
  | @enlisted command result hdelivery =>
      refine ⟨fun _ _ left hleft => ?_, List.forall_mem_nil _⟩
      simp only [delivering, Option.some_inj, Delivery.mk.injEq, Stage.telling.injEq] at hleft
      rw [← hleft.2.2]
      exact isDeed_announcements _ result
  | @told command result event left hdelivery =>
      obtain ⟨hevent, hleft⟩ := List.forall_mem_cons.mp (htells _ _ _ hdelivery)
      refine ⟨fun _ _ others hothers => ?_, List.forall_mem_singleton.mpr hevent⟩
      simp only [delivering, Option.some_inj, Delivery.mk.injEq, Stage.telling.injEq] at hothers
      rw [← hothers.2.2]
      exact hleft
  | completed => exact ⟨by simp [TellsDeeds], by simp [Event.isDeed]⟩

end Relay

/-- To look at a command is to do nothing. -/
theorem isDeed_lgEvents (lookup : Lookup) (payload : Payload) :
    ∀ e ∈ lgEvents lookup payload, e.isDeed = false := by
  unfold lgEvents
  split
  · split <;> simp [Event.isDeed]
  · simp

/-- A relay, and the commands that the watcher has looked at and that are on their way to it. -/
structure Lookout where
  relay : Relay
  passing : List Command := []

namespace Lookout

inductive Step
  /-- The watcher looks at a command. -/
  | watch (command : Command)
  /-- The command at this place comes to the generic handler. -/
  | pass (place : Nat)
  | relay (step : Relay.Step)

def step (l : Lookout) : Step → Option (Lookout × List Event)
  | .watch command =>
    some ({ l with passing := l.passing ++ [command] },
      lgEvents l.relay.handler.registry.device? command.payload)
  | .pass place =>
    match l.passing[place]? with
    | none => none
    | some command =>
      (l.relay.step (.traffic (.offer command))).map fun (relay, events) =>
        (⟨relay, l.passing.eraseIdx place⟩, events)
  | .relay s =>
    if s.isOffer then none
    else (l.relay.step s).map fun (relay, events) => ({ l with relay }, events)

/-- Takes steps; one that is not possible is left out. -/
def run (l : Lookout) : List Step → Lookout × List Event
  | [] => (l, [])
  | s :: rest =>
    match l.step s with
    | none => l.run rest
    | some (next, events) => ((next.run rest).1, events ++ (next.run rest).2)

def start (defaultAdapter : String) (observers : Nat) : Lookout :=
  ⟨.start defaultAdapter observers, []⟩

theorem tellsDeeds_start (defaultAdapter : String) (observers : Nat) :
    (start defaultAdapter observers).relay.TellsDeeds := by
  simp [start, Relay.start, Relay.TellsDeeds]

variable {l next : Lookout} {s : Step} {events : List Event}

theorem run_cons_of_step (h : l.step s = some (next, events)) (rest : List Step) :
    l.run (s :: rest) = ((next.run rest).1, events ++ (next.run rest).2) := by
  simp only [run, h]

theorem deeds_lgEvents (lookup : Lookup) (payload : Payload) :
    (lgEvents lookup payload).filter (·.isDeed) = [] :=
  List.filter_eq_nil_iff.mpr fun e he => by simp [isDeed_lgEvents lookup payload e he]

/-- The watcher does nothing, and every other step is one of the relay. -/
theorem relay_of_step (h : l.step s = some (next, events)) :
    next.relay = l.relay ∧ events.filter (·.isDeed) = [] ∨
      ∃ step, l.relay.step step = some (next.relay, events) := by
  cases s with
  | watch command =>
      obtain ⟨rfl, rfl⟩ := h
      exact .inl ⟨rfl, deeds_lgEvents _ command.payload⟩
  | pass place =>
      simp only [step] at h
      split at h
      · contradiction
      · rename_i command hplace
        obtain ⟨⟨relay, seen⟩, hstep, hnext⟩ := Option.map_eq_some_iff.mp h
        obtain ⟨rfl, rfl⟩ := hnext
        exact .inr ⟨_, hstep⟩
  | relay s =>
      simp only [step] at h
      split at h
      · contradiction
      · obtain ⟨⟨relay, seen⟩, hstep, hnext⟩ := Option.map_eq_some_iff.mp h
        obtain ⟨rfl, rfl⟩ := hnext
        exact .inr ⟨_, hstep⟩

/-- Where the watcher looks on, the relay goes as it may go without. -/
theorem exists_relay_run (htells : l.relay.TellsDeeds) (steps : List Step) :
    ∃ others, l.relay.run others =
      ((l.run steps).1.relay, (l.run steps).2.filter (·.isDeed)) := by
  induction steps generalizing l with
  | nil => exact ⟨[], rfl⟩
  | cons s rest ih =>
      cases hstep : l.step s with
      | none =>
          simp only [run, hstep]
          exact ih htells
      | some pair =>
          obtain ⟨next, events⟩ := pair
          rw [run_cons_of_step hstep, List.filter_append]
          obtain ⟨hrelay, hevents⟩ | ⟨step, hrelay⟩ := relay_of_step hstep
          · rw [hevents, List.nil_append, ← hrelay]
            exact ih (hrelay ▸ htells)
          · obtain ⟨hnext, hdeeds⟩ := (Relay.effect_of_step hrelay).isDeed htells
            obtain ⟨others, hothers⟩ := ih hnext
            refine ⟨step :: others, ?_⟩
            rw [Relay.run_cons_of_step hrelay, hothers, List.filter_eq_self.mpr hdeeds]

/-- A command that the watcher has looked at comes to the generic handler. -/
theorem run_watch_pass (l : Lookout) (command : Command) (rest : List Step) :
    let entered := l.relay.traffic.enter command
    let after : Lookout := { l with relay := { l.relay with traffic := entered.1 } }
    l.run (.watch command :: .pass l.passing.length :: rest) =
      ((after.run rest).1, lgEvents l.relay.handler.registry.device? command.payload ++
        (entered.2 ++ (after.run rest).2)) := by
  intro entered after
  let watched : Lookout := { l with passing := l.passing ++ [command] }
  have hwatch : l.step (.watch command) =
      some (watched, lgEvents l.relay.handler.registry.device? command.payload) := rfl
  have hpass : watched.step (.pass l.passing.length) = some (after, entered.2) := by
    simp [step, watched, Relay.step_offer, after, entered, List.eraseIdx_append_of_length_le]
  rw [run_cons_of_step hwatch, run_cons_of_step hpass]

/-- Whatever way the relay goes, the watcher can look on. -/
theorem exists_run (htells : l.relay.TellsDeeds) (others : List Relay.Step) :
    ∃ steps, (l.run steps).1 = { l with relay := (l.relay.run others).1 } ∧
      (l.run steps).2.filter (·.isDeed) = (l.relay.run others).2 := by
  induction others generalizing l with
  | nil => exact ⟨[], rfl, rfl⟩
  | cons s rest ih =>
      cases hstep : l.relay.step s with
      | none =>
          simp only [Relay.run, hstep]
          exact ih htells
      | some pair =>
          obtain ⟨relay, events⟩ := pair
          obtain ⟨hnext, hdeeds⟩ := (Relay.effect_of_step hstep).isDeed htells
          obtain ⟨steps, hrun, hseen⟩ := @ih { l with relay } hnext
          rw [Relay.run_cons_of_step hstep]
          cases hoffer : s.isOffer with
          | false =>
              have hrelay : l.step (.relay s) = some ({ l with relay }, events) := by
                simp [step, hoffer, hstep]
              refine ⟨.relay s :: steps, ?_⟩
              rw [run_cons_of_step hrelay, List.filter_append, List.filter_eq_self.mpr hdeeds]
              exact ⟨hrun, congrArg (events ++ ·) hseen⟩
          | true =>
              unfold Relay.Step.isOffer at hoffer
              split at hoffer
              · rename_i command
                rw [Relay.step_offer, Option.some_inj, Prod.mk.injEq] at hstep
                obtain ⟨rfl, rfl⟩ := hstep
                refine ⟨.watch command :: .pass l.passing.length :: steps, ?_⟩
                rw [run_watch_pass, List.filter_append, deeds_lgEvents, List.nil_append,
                  List.filter_append, List.filter_eq_self.mpr hdeeds]
                exact ⟨hrun, congrArg (_ ++ ·) hseen⟩
              · contradiction

end Lookout

end CecGateway
