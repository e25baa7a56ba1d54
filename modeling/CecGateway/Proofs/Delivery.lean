import CecGateway.Proofs.Traffic.Runs

/-!
# Replies, step by step

The worker brings a reply to its command in several steps, and calls and subscriptions may come in
between: it takes the record that the reply answers, folds the result into the registry, looks up
who observes, tells one observer after another, and completes the command. Where nothing comes in
between, this is one step of the traffic (`exists_run_of_history`).
-/

namespace CecGateway

/-! ## What a result changes -/

def Result.adapters? (r : Result) : Option (List String) :=
  match r.data? with
  | some (.adapters names) => some names
  | _ => none

def Result.devices? (r : Result) : Option (List Device) :=
  match r.data? with
  | some (.devices devices) => some devices
  | _ => none

def Registry.fold (r : Registry) (result : Result) : Registry where
  adapters := result.adapters?.getD r.adapters
  devices := (result.devices?.elim r r.mergeDevices).devices

/-- The calls of the observers that a result is a reason for. -/
def announcements (observers : Nat) (result : Result) : List Event :=
  match result.devices? with
  | some devices => (List.range observers).map (.scanned · devices)
  | none => []

theorem Generic.apply_eq (g : Generic) (result : Result) :
    g.apply result =
      ({ g with registry := g.registry.fold result }, announcements g.observers result) := by
  unfold apply announcements Registry.fold Result.adapters? Result.devices?
  cases result.data? with
  | none => rfl
  | some data => cases data <;> rfl

/-! ## The steps -/

def Traffic.Step.isFinish : Step → Bool
  | .work (.finish _) => true
  | _ => false

/-- How far a reply has come. -/
inductive Stage
  | taken
  | folded
  | telling (left : List Event)

/-- A reply on its way to its command. -/
structure Delivery where
  command : Command
  result : Result
  stage : Stage := .taken

/-- Traffic, and the reply that the worker is about to deliver. -/
structure Relay where
  traffic : Traffic
  delivery? : Option Delivery := none

namespace Relay

inductive Step
  | traffic (step : Traffic.Step)
  /-- The hardware answers; the record is taken, if there is one. -/
  | receive (answer : Except Fault Response)
  | fold
  | enlist
  | tell
  | complete

def handler (r : Relay) : Generic := r.traffic.handler

def withHandler (r : Relay) (handler : Generic) : Relay :=
  { r with traffic := { r.traffic with handler } }

def delivering (r : Relay) (command : Command) (result : Result) (stage : Stage) : Relay :=
  { r with delivery? := some ⟨command, result, stage⟩ }

def step (r : Relay) : Step → Option (Relay × List Event)
  | .traffic s =>
    if s.isFinish then none
    else (r.traffic.step s).map fun (traffic, events) => ({ r with traffic }, events)
  | .receive answer =>
    match r.delivery?, r.handler.queue.worker with
    | none, .busy fault? message =>
      match r.handler.pending? message.seq with
      | none => some (r.withHandler (r.traffic.afterwards fault?), [])
      | some p =>
        let result := Generic.resultOf p (Queue.outcomeFor fault? message answer)
        some ((r.withHandler (r.handler.forget message.seq)).delivering p.command result .taken, [])
    | _, _ => none
  | .fold =>
    match r.delivery? with
    | some ⟨command, result, .taken⟩ =>
      some ((r.withHandler (r.handler.apply result).1).delivering command result .folded, [])
    | _ => none
  | .enlist =>
    match r.delivery? with
    | some ⟨command, result, .folded⟩ =>
      some (r.delivering command result (.telling (r.handler.apply result).2), [])
    | _ => none
  | .tell =>
    match r.delivery? with
    | some ⟨command, result, .telling (event :: left)⟩ =>
      some (r.delivering command result (.telling left), [event])
    | _ => none
  | .complete =>
    match r.delivery?, r.handler.queue.worker with
    | some ⟨command, result, .telling []⟩, .busy fault? _ =>
      some (⟨(r.withHandler (r.traffic.afterwards fault?)).traffic, none⟩,
        [.completed command.ticket result])
    | _, _ => none

/-- Takes steps; one that is not possible is left out. -/
def run (r : Relay) : List Step → Relay × List Event
  | [] => (r, [])
  | s :: rest =>
    match r.step s with
    | none => r.run rest
    | some (next, events) => ((next.run rest).1, events ++ (next.run rest).2)

/-- A handler with observers from the beginning. -/
def start (defaultAdapter : String) (observers : Nat) : Relay where
  traffic := { handler := { defaultAdapter, observers } }

/-! ## What a step can do -/

/-- All that a step can do, each case with its guard. -/
inductive Effect (r : Relay) : Step → Relay → List Event → Prop
  | traffic {s : Traffic.Step} {next : Traffic} {events : List Event}
      (hfinish : s.isFinish = false) (heffect : r.traffic.Effect s next events) :
      Effect r (.traffic s) { r with traffic := next } events
  | dropped {answer : Except Fault Response} {fault? : Option Fault} {message : Message}
      (hidle : r.delivery? = none) (hworker : r.handler.queue.worker = .busy fault? message)
      (hpending : r.handler.pending? message.seq = none) :
      Effect r (.receive answer) (r.withHandler (r.traffic.afterwards fault?)) []
  | received {answer : Except Fault Response} {fault? : Option Fault} {message : Message}
      {p : Pending} {result : Result}
      (hidle : r.delivery? = none) (hworker : r.handler.queue.worker = .busy fault? message)
      (hpending : r.handler.pending? message.seq = some p)
      (hresult : result = Generic.resultOf p (Queue.outcomeFor fault? message answer)) :
      Effect r (.receive answer)
        ((r.withHandler (r.handler.forget message.seq)).delivering p.command result .taken) []
  | folded {command : Command} {result : Result}
      (hdelivery : r.delivery? = some ⟨command, result, .taken⟩) :
      Effect r .fold
        ((r.withHandler
          { r.handler with registry := r.handler.registry.fold result }).delivering
            command result .folded) []
  | enlisted {command : Command} {result : Result}
      (hdelivery : r.delivery? = some ⟨command, result, .folded⟩) :
      Effect r .enlist
        (r.delivering command result (.telling (announcements r.handler.observers result))) []
  | told {command : Command} {result : Result} {event : Event} {left : List Event}
      (hdelivery : r.delivery? = some ⟨command, result, .telling (event :: left)⟩) :
      Effect r .tell (r.delivering command result (.telling left)) [event]
  | completed {command : Command} {result : Result} {fault? : Option Fault} {message : Message}
      (hdelivery : r.delivery? = some ⟨command, result, .telling []⟩)
      (hworker : r.handler.queue.worker = .busy fault? message) :
      Effect r .complete ⟨(r.withHandler (r.traffic.afterwards fault?)).traffic, none⟩
        [.completed command.ticket result]

variable {r next : Relay} {s : Step} {events : List Event}

theorem effect_of_step (h : r.step s = some (next, events)) : r.Effect s next events := by
  cases s with
  | traffic s =>
      simp only [step] at h
      split at h
      · contradiction
      · rename_i hfinish
        obtain ⟨⟨traffic, seen⟩, hstep, hnext⟩ := Option.map_eq_some_iff.mp h
        obtain ⟨rfl, rfl⟩ := hnext
        exact .traffic (by simpa using hfinish) (Traffic.effect_of_step hstep)
  | receive answer =>
      simp only [step] at h
      split at h
      · rename_i fault? message hidle hworker
        split at h
        · rename_i hpending
          obtain ⟨rfl, rfl⟩ := h
          exact .dropped hidle hworker hpending
        · rename_i p hpending
          obtain ⟨rfl, rfl⟩ := h
          exact .received hidle hworker hpending rfl
      · contradiction
  | fold =>
      simp only [step] at h
      split at h
      · rename_i command result hdelivery
        rw [Generic.apply_eq] at h
        obtain ⟨rfl, rfl⟩ := h
        exact .folded hdelivery
      · contradiction
  | enlist =>
      simp only [step] at h
      split at h
      · rename_i command result hdelivery
        rw [Generic.apply_eq] at h
        obtain ⟨rfl, rfl⟩ := h
        exact .enlisted hdelivery
      · contradiction
  | tell =>
      simp only [step] at h
      split at h
      · rename_i command result event left hdelivery
        obtain ⟨rfl, rfl⟩ := h
        exact .told hdelivery
      · contradiction
  | complete =>
      simp only [step] at h
      split at h
      · rename_i command result fault? message hdelivery hworker
        obtain ⟨rfl, rfl⟩ := h
        exact .completed hdelivery hworker
      · contradiction

/-! ## Runs -/

theorem run_cons_of_step (h : r.step s = some (next, events)) (rest : List Step) :
    r.run (s :: rest) = ((next.run rest).1, events ++ (next.run rest).2) := by
  simp only [run, h]

theorem run_append (r : Relay) (steps later : List Step) :
    r.run (steps ++ later) =
      (((r.run steps).1.run later).1, (r.run steps).2 ++ ((r.run steps).1.run later).2) := by
  induction steps generalizing r with
  | nil => rfl
  | cons s rest ih =>
      cases hstep : r.step s with
      | none => simpa only [List.cons_append, run, hstep] using ih r
      | some pair =>
          obtain ⟨next, events⟩ := pair
          rw [List.cons_append, run_cons_of_step hstep, run_cons_of_step hstep, ih,
            List.append_assoc]

/-- What holds of a relay and of what has been seen, and survives every effect, holds after every
run. -/
theorem run_invariant {P : Relay → List Event → Prop}
    (hstep : ∀ r seen s next events, P r seen → r.Effect s next events → P next (seen ++ events))
    {seen : List Event} (hbegin : P r seen) (steps : List Step) :
    P (r.run steps).1 (seen ++ (r.run steps).2) := by
  induction steps generalizing r seen with
  | nil => simpa [run] using hbegin
  | cons s rest ih =>
      cases hnext : r.step s with
      | none => simpa only [run, hnext] using ih hbegin
      | some pair =>
          obtain ⟨next, events⟩ := pair
          rw [run_cons_of_step hnext, ← List.append_assoc]
          exact ih (hstep r seen s next events hbegin (effect_of_step hnext))

/-! ## Deliveries that nothing interrupts -/

theorem run_tell (r : Relay) (command : Command) (result : Result) (left : List Event) :
    (r.delivering command result (.telling left)).run (List.replicate left.length .tell) =
      (r.delivering command result (.telling []), left) := by
  induction left generalizing r with
  | nil => rfl
  | cons event rest ih =>
      have htell : (r.delivering command result (.telling (event :: rest))).step .tell =
          some (r.delivering command result (.telling rest), [event]) := rfl
      rw [List.length_cons, List.replicate_succ, run_cons_of_step htell, ih]
      rfl

theorem exists_run_of_finish {t after : Traffic} {answer : Except Fault Response}
    (h : t.step (.work (.finish answer)) = some (after, events)) :
    ∃ steps, Relay.run ⟨t, none⟩ steps = (⟨after, none⟩, events) := by
  cases Traffic.effect_of_step h with
  | @unmatched fault? message _ hworker hpending =>
      have hreceive : Relay.step ⟨t, none⟩ (.receive answer) =
          some (⟨{ t with handler := t.afterwards fault? }, none⟩, []) := by
        simp [step, handler, hworker, hpending, withHandler]
      exact ⟨[.receive answer], run_cons_of_step hreceive []⟩
  | @answered fault? message _ p result hworker hpending hresult =>
      let left := announcements t.handler.observers result
      let taken : Relay := ⟨{ t with handler := t.handler.forget message.seq }, none⟩
      let folded : Relay := taken.withHandler
        { taken.handler with registry := t.handler.registry.fold result }
      have hreceive : Relay.step ⟨t, none⟩ (.receive answer) =
          some (taken.delivering p.command result .taken, []) := by
        simp [step, handler, hworker, hpending, withHandler, taken, hresult]
      have hfold : (taken.delivering p.command result .taken).step .fold =
          some (folded.delivering p.command result .folded, []) := by
        simp [step, delivering, handler, withHandler, Generic.apply_eq, taken, folded,
          Generic.forget]
      have henlist : (folded.delivering p.command result .folded).step .enlist =
          some (folded.delivering p.command result (.telling left), []) := by
        simp [step, delivering, handler, withHandler, Generic.apply_eq, taken, folded,
          Generic.forget, left]
      have hcomplete : (folded.delivering p.command result (.telling [])).step .complete =
          some (⟨{ t with
            handler := (((t.afterwards fault?).forget message.seq).apply result).1 }, none⟩,
              [.completed p.command.ticket result]) := by
        simp [step, delivering, handler, withHandler, Generic.apply_eq, taken, folded,
          Generic.forget, hworker, Traffic.afterwards]
      -- the worker's state is no part of what a result changes
      have hannounced : (((t.afterwards fault?).forget message.seq).apply result).2 = left := by
        rw [Generic.apply_eq]
        rfl
      refine ⟨.receive answer :: .fold :: .enlist ::
        (List.replicate left.length .tell ++ [.complete]), ?_⟩
      rw [run_cons_of_step hreceive, run_cons_of_step hfold, run_cons_of_step henlist, run_append,
        run_tell, run_cons_of_step hcomplete, hannounced]
      rfl

theorem exists_run_of_step {t next : Traffic} {s : Traffic.Step} {events : List Event}
    (h : t.step s = some (next, events)) :
    ∃ steps, Relay.run ⟨t, none⟩ steps = (⟨next, none⟩, events) := by
  cases hfinish : s.isFinish with
  | false =>
      have hstep : Relay.step ⟨t, none⟩ (.traffic s) = some (⟨next, none⟩, events) := by
        simp [step, hfinish, h]
      refine ⟨[.traffic s], ?_⟩
      rw [run_cons_of_step hstep, run, List.append_nil]
  | true =>
      unfold Traffic.Step.isFinish at hfinish
      split at hfinish
      · exact exists_run_of_finish h
      · contradiction

theorem exists_run_of_follow {h : History}
    (hbegin : ∃ steps, r.run steps = (⟨h.now, none⟩, h.events)) (schedule : List Traffic.Step) :
    ∃ steps, r.run steps = (⟨(h.follow schedule).now, none⟩, (h.follow schedule).events) := by
  induction schedule generalizing h with
  | nil => exact hbegin
  | cons s rest ih =>
      apply ih
      unfold History.extend
      cases hnext : h.now.step s with
      | none => exact hbegin
      | some pair =>
          obtain ⟨next, events⟩ := pair
          obtain ⟨steps, hsteps⟩ := hbegin
          obtain ⟨later, hlater⟩ := exists_run_of_step hnext
          refine ⟨steps ++ later, ?_⟩
          rw [run_append, hsteps, hlater]
          simp [History.events]

/-- Every schedule of the traffic is a run in which no delivery is interrupted. -/
theorem exists_run_of_history (defaultAdapter : String) (schedule : List Traffic.Step) :
    ∃ steps, (start defaultAdapter 0).run steps =
      (⟨(history defaultAdapter schedule).now, none⟩,
        (history defaultAdapter schedule).events) :=
  exists_run_of_follow (h := History.begin defaultAdapter) ⟨[], rfl⟩ schedule

end Relay

end CecGateway
