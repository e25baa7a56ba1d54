import CecGateway.Proofs.Delivery.Registry
import CecGateway.Proofs.Traffic.Course

/-!
# Rejections leave no trace

A command that is not valid is completed in the call that offers it, and nothing else comes of it.
So two runs that differ only in such commands go through the same states, turn by turn, and let the
same events be seen, but for those completions (`rejections_change_nothing`).
-/

namespace CecGateway

/-! ## What is not read -/

/-- No step depends on what has been offered before. -/
theorem Traffic.step_offered (t : Traffic) (s : Step) (offered : List Command) :
    ({ t with offered } : Traffic).step s =
      (t.step s).map fun (next, events) =>
        ({ next with offered := offered ++ s.offers }, events) := by
  cases s with
  | offer command =>
      simp only [step, enter, Step.offers]
      cases t.handler.validate command.payload <;> simp
  | advance place =>
      simp only [step, Step.offers]
      cases t.callers[place]? with
      | none => rfl
      | some caller =>
          obtain ⟨command, progress⟩ := caller
          cases progress <;> simp [proceed]
  | work s =>
      simp only [step, Step.offers]
      split
      · cases t.handler.work s <;> simp
      · rfl
  | subscribe | shut => simp [step, Step.offers]
  | abandon =>
      simp only [step, Step.offers]
      split <;> simp

namespace Relay

variable {r next : Relay} {s : Step} {events : List Event}

/-- The relay as if these commands had been offered. -/
def withOffered (r : Relay) (offered : List Command) : Relay :=
  { r with traffic := { r.traffic with offered } }

def Step.offers : Step → List Command
  | .traffic s => s.offers
  | _ => []

theorem step_withOffered (r : Relay) (s : Step) (offered : List Command) :
    (r.withOffered offered).step s =
      (r.step s).map fun (next, events) => (next.withOffered (offered ++ s.offers), events) := by
  cases s with
  | traffic s =>
      simp only [step, Step.offers, withOffered, Traffic.step_offered]
      split
      · rfl
      · cases r.traffic.step s <;> rfl
  | receive answer =>
      simp only [step, Step.offers, withOffered, handler, List.append_nil]
      split
      · split <;> rfl
      · rfl
  | fold | enlist | tell | complete =>
      simp only [step, Step.offers, withOffered, handler, List.append_nil]
      split <;> rfl

/-! ## Turns -/

/-- A step that a relay takes: before what, and what it lets be seen. -/
structure Turn where
  before : Relay
  step : Step
  events : List Event

/-- The turns of a run; a step that is not possible is left out. -/
def turns (r : Relay) : List Step → List Turn
  | [] => []
  | s :: rest =>
    match r.step s with
    | none => r.turns rest
    | some (next, events) => ⟨r, s, events⟩ :: next.turns rest

def rejects (r : Relay) : Step → Bool
  | .traffic (.offer command) => !(r.handler.validate command.payload).isOk
  | _ => false

def Turn.isRejection (t : Turn) : Bool := t.before.rejects t.step

/-- The turns but those of commands that are not valid. -/
def keptTurns (r : Relay) (steps : List Step) : List Turn :=
  (r.turns steps).filter (!·.isRejection)

/-- The steps of a run but the offers of commands that are not valid when they are offered. -/
def keptSteps (r : Relay) (steps : List Step) : List Step := (r.keptTurns steps).map (·.step)

/-- A turn without the list of what has been offered before it. -/
def Turn.unlisted (t : Turn) : Turn := { t with before := t.before.withOffered [] }

theorem turns_cons_of_step (hstep : r.step s = some (next, events)) (rest : List Step) :
    r.turns (s :: rest) = ⟨r, s, events⟩ :: next.turns rest := by
  simp only [turns, hstep]

theorem run_eq_turns (r : Relay) (steps : List Step) :
    (r.run steps).2 = (r.turns steps).flatMap (·.events) := by
  induction steps generalizing r with
  | nil => rfl
  | cons s rest ih =>
      cases hstep : r.step s with
      | none => simpa only [run, turns, hstep] using ih r
      | some pair =>
          obtain ⟨next, events⟩ := pair
          rw [run_cons_of_step hstep, turns_cons_of_step hstep, List.flatMap_cons, ih next]

theorem exists_of_rejects (h : r.rejects s = true) :
    ∃ command why, s = .traffic (.offer command) ∧
      r.handler.validate command.payload = .error why := by
  unfold rejects at h
  split at h
  · rename_i command
    cases hvalidate : r.handler.validate command.payload with
    | ok => simp [hvalidate, Except.isOk, Except.toBool] at h
    | error why => exact ⟨command, why, rfl, hvalidate⟩
  · contradiction

/-- The completion of a command that is not valid. -/
def rejection (command : Command) (why : Failure) : Event :=
  .completed command.ticket (.failure command.payload.kind why)

theorem step_rejected {command : Command} {why : Failure}
    (hinvalid : r.handler.validate command.payload = .error why) :
    r.step (.traffic (.offer command)) =
      some (r.withOffered (r.traffic.offered ++ [command]), [rejection command why]) := by
  have hinvalid : r.traffic.handler.validate command.payload = .error why := hinvalid
  simp [step, Traffic.Step.isFinish, Traffic.step, Traffic.enter, hinvalid, withOffered, rejection,
    Generic.fail]

theorem exists_step_of_mem_turns {t : Turn} {steps : List Step} (hmem : t ∈ r.turns steps) :
    ∃ next, t.before.step t.step = some (next, t.events) := by
  induction steps generalizing r with
  | nil => simp [turns] at hmem
  | cons s rest ih =>
      cases hstep : r.step s with
      | none =>
          rw [turns, hstep] at hmem
          exact ih hmem
      | some pair =>
          obtain ⟨next, events⟩ := pair
          rw [turns_cons_of_step hstep] at hmem
          obtain rfl | hrest := List.mem_cons.mp hmem
          · exact ⟨next, hstep⟩
          · exact ih hrest

theorem exists_of_isRejection {t : Turn} {steps : List Step} (hmem : t ∈ r.turns steps)
    (hrejection : t.isRejection = true) :
    ∃ command why, t.step = .traffic (.offer command) ∧
      t.before.handler.validate command.payload = .error why ∧
      t.events = [rejection command why] := by
  obtain ⟨next, hstep⟩ := exists_step_of_mem_turns hmem
  obtain ⟨command, why, hoffer, hinvalid⟩ := exists_of_rejects hrejection
  rw [hoffer, step_rejected hinvalid] at hstep
  exact ⟨command, why, hoffer, hinvalid, (Prod.mk.inj (Option.some_inj.mp hstep)).2.symm⟩

theorem keptTurns_cons_of_step (hstep : r.step s = some (next, events)) (rest : List Step) :
    r.keptTurns (s :: rest) =
      if r.rejects s then next.keptTurns rest else ⟨r, s, events⟩ :: next.keptTurns rest := by
  cases hrejects : r.rejects s <;>
    simp [keptTurns, turns_cons_of_step hstep, Turn.isRejection, hrejects]

/-- Without the offers that are rejected, a run takes all the other turns as it did. -/
theorem turns_keptSteps (r : Relay) (steps : List Step) (offered : List Command) :
    ((r.withOffered offered).turns (r.keptSteps steps)).map (·.unlisted) =
        (r.keptTurns steps).map (·.unlisted) ∧
      ((r.withOffered offered).run (r.keptSteps steps)).1 =
        (r.run steps).1.withOffered (offered ++ (r.keptSteps steps).flatMap (·.offers)) := by
  induction steps generalizing r offered with
  | nil => exact ⟨rfl, by simp [keptSteps, keptTurns, turns, run]⟩
  | cons s rest ih =>
      cases hstep : r.step s with
      | none => simpa only [keptSteps, keptTurns, turns, run, hstep] using ih r offered
      | some pair =>
          obtain ⟨next, events⟩ := pair
          have hkept := keptTurns_cons_of_step hstep rest
          cases hrejects : r.rejects s with
          | true =>
              rw [hrejects, if_pos rfl] at hkept
              obtain ⟨command, why, rfl, hinvalid⟩ := exists_of_rejects hrejects
              -- the relay is what it was, but for what has been offered
              have hsame := hstep.symm.trans (step_rejected hinvalid)
              obtain ⟨rfl, rfl⟩ := Prod.mk.inj (Option.some_inj.mp hsame)
              rw [keptSteps, hkept, run_cons_of_step hstep]
              exact ih (r.withOffered (r.traffic.offered ++ [command])) offered
          | false =>
              rw [hrejects, if_neg Bool.false_ne_true] at hkept
              have htaken : (r.withOffered offered).step s =
                  some (next.withOffered (offered ++ s.offers), events) := by
                rw [step_withOffered, hstep]
                rfl
              obtain ⟨hturns, hnow⟩ := ih next (offered ++ s.offers)
              rw [keptSteps, hkept, List.map_cons, ← keptSteps, turns_cons_of_step htaken,
                run_cons_of_step htaken, run_cons_of_step hstep]
              refine ⟨congrArg (Turn.unlisted ⟨r, s, events⟩ :: ·) hturns, ?_⟩
              rw [hnow, List.flatMap_cons, List.append_assoc]

/-! ## What can be seen -/

theorem flatMap_filter_isRejection {β : Type} (see : Turn → List β) (turns : List Turn)
    (hunseen : ∀ t ∈ turns, t.isRejection = true → see t = []) :
    (turns.filter (!·.isRejection)).flatMap see = turns.flatMap see := by
  induction turns with
  | nil => rfl
  | cons t rest ih =>
      have hrest := ih fun u hu => hunseen u (List.mem_cons_of_mem t hu)
      cases hrejection : t.isRejection with
      | true => simp [hrejection, hrest, hunseen t List.mem_cons_self hrejection]
      | false => simp [hrejection, hrest]

/-- What is not seen of a rejection is seen as often without the offers that are rejected. -/
theorem filterMap_run_keptSteps {β : Type} (see : Event → Option β) (r : Relay) (steps : List Step)
    (hunseen : ∀ t ∈ r.turns steps, t.isRejection = true → t.events.filterMap see = []) :
    (r.run (r.keptSteps steps)).2.filterMap see = (r.run steps).2.filterMap see := by
  have hevents : (r.turns (r.keptSteps steps)).map (·.events) =
      (r.keptTurns steps).map (·.events) := by
    have hturns := congrArg (List.map Turn.events) (turns_keptSteps r steps r.traffic.offered).1
    rw [List.map_map, List.map_map] at hturns
    exact hturns
  calc (r.run (r.keptSteps steps)).2.filterMap see
      = ((r.turns (r.keptSteps steps)).map (·.events)).flatMap (·.filterMap see) := by
        rw [run_eq_turns, List.filterMap_flatMap, List.flatMap_map]
    _ = (r.keptTurns steps).flatMap (·.events.filterMap see) := by rw [hevents, List.flatMap_map]
    _ = (r.turns steps).flatMap (·.events.filterMap see) := flatMap_filter_isRejection _ _ hunseen
    _ = (r.run steps).2.filterMap see := by rw [run_eq_turns, List.filterMap_flatMap]

/-- The commands of the turns that are rejections. -/
def rejected (r : Relay) (steps : List Step) : List Command :=
  ((r.turns steps).filter (·.isRejection)).flatMap (·.step.offers)

/-- Taking this command is one completion, in the call itself, and changes nothing. -/
structure Rejects (r : Relay) (command : Command) (why : Failure) : Prop where
  step_eq : r.step (.traffic (.offer command)) =
    some (r.withOffered (r.traffic.offered ++ [command]), [rejection command why])
  handle_eq : r.handler.handle command = (r.handler, [rejection command why])
  offer_eq (hardware : Hardware) (lookup : Lookup) :
    (Handler.generic r.handler).offer hardware lookup command =
      (.generic (r.handler.settle hardware false).1, .claimed,
        rejection command why :: (r.handler.settle hardware false).2)

/-- Without the offers that are rejected, the run is the same turn by turn, and all else that is
seen of it. -/
structure Spares (r : Relay) (steps : List Step) : Prop where
  turns_eq : (r.turns (r.keptSteps steps)).map (·.unlisted) = (r.keptTurns steps).map (·.unlisted)
  now_eq : (r.run (r.keptSteps steps)).1.withOffered [] = (r.run steps).1.withOffered []
  completions_eq : ∀ ticket, ticket ∉ (r.rejected steps).map (·.ticket) →
    (Event.completions (r.run (r.keptSteps steps)).2).filter (·.1 = ticket) =
      (Event.completions (r.run steps).2).filter (·.1 = ticket)
  calls_eq : Event.calls (r.run (r.keptSteps steps)).2 = Event.calls (r.run steps).2
  lines_eq : (Event.executions (r.run (r.keptSteps steps)).2).map (·.requestLine) =
    (Event.executions (r.run steps).2).map (·.requestLine)
  told_eq : ∀ observer,
    Event.told observer (r.run (r.keptSteps steps)).2 = Event.told observer (r.run steps).2

theorem rejects_of_validate {command : Command} {why : Failure}
    (hinvalid : r.handler.validate command.payload = .error why) : r.Rejects command why := by
  have hhandle : r.handler.handle command = (r.handler, [rejection command why]) := by
    simp only [Generic.handle, hinvalid, rejection, Generic.fail]
  exact ⟨step_rejected hinvalid, hhandle, fun hardware lookup => by
    simp only [Handler.offer, hhandle, List.singleton_append]⟩

theorem filterMap_rejection_eq_nil {β : Type} {see : Event → Option β}
    (hcompleted : ∀ ticket result, see (.completed ticket result) = none) {steps : List Step} :
    ∀ t ∈ r.turns steps, t.isRejection = true → t.events.filterMap see = [] := by
  intro t hmem hrejection
  obtain ⟨command, why, -, -, hevents⟩ := exists_of_isRejection hmem hrejection
  simp [hevents, rejection, hcompleted]

theorem spares (r : Relay) (steps : List Step) : r.Spares steps := by
  obtain ⟨hturns, hnow⟩ := turns_keptSteps r steps r.traffic.offered
  have hsame := congrArg (fun now : Relay => now.withOffered []) hnow
  refine ⟨hturns, hsame, fun ticket hticket => ?_,
    filterMap_run_keptSteps _ r steps (filterMap_rejection_eq_nil fun _ _ => rfl),
    congrArg (List.map NativeCommand.requestLine)
      (filterMap_run_keptSteps _ r steps (filterMap_rejection_eq_nil fun _ _ => rfl)),
    fun observer => filterMap_run_keptSteps _ r steps (filterMap_rejection_eq_nil fun _ _ => rfl)⟩
  simp only [Event.completions, List.filter_filterMap]
  refine filterMap_run_keptSteps _ r steps fun t hmem hrejection => ?_
  obtain ⟨command, why, hoffer, -, hevents⟩ := exists_of_isRejection hmem hrejection
  -- the command of this turn is among the rejected ones, so its ticket is another
  have hother : command.ticket ≠ ticket := by
    rintro rfl
    refine hticket (List.mem_map_of_mem (List.mem_flatMap.mpr ⟨t, ?_, ?_⟩))
    · exact List.mem_filter.mpr ⟨hmem, hrejection⟩
    · rw [hoffer]
      exact List.mem_singleton_self command
  simp [hevents, rejection, hother]

end Relay

/-- A command that is not valid is completed by the call that offers it, whatever is under way, and
a run goes as it would without such commands. -/
theorem rejections_change_nothing (defaultAdapter : String) (observers : Nat)
    (steps : List Relay.Step) :
    let start := Relay.start defaultAdapter observers
    let now := (start.run steps).1
    (∀ command why, now.handler.validate command.payload = .error why → now.Rejects command why) ∧
      start.Spares steps :=
  ⟨fun _ _ => Relay.rejects_of_validate, Relay.spares _ steps⟩

/-- The hardware is scanning when a command names an adapter that it does not have. -/
def rejectedMidway : List Relay.Step :=
  [.traffic (.offer ⟨0, .scan none⟩), .traffic (.advance 0), .traffic (.advance 0),
    .traffic (.advance 0), .traffic (.work (.start (.ok ()))), .traffic (.work .pop),
    .traffic (.offer ⟨1, .scan (some "none")⟩), .receive (.ok (.lines [])), .fold, .enlist,
    .complete]

example : let start := Relay.start "RPI" 0
    (start.rejected rejectedMidway).map (·.ticket) = [1] ∧
      (Event.completions (start.run rejectedMidway).2).map (·.1) = [1, 0] ∧
      (Event.completions (start.run (start.keptSteps rejectedMidway)).2).map (·.1) = [0] := by
  decide +kernel

end CecGateway
