import CecGateway.Proofs.Traffic

/-!
# The handler's operations as traffic

Handling a command, letting the worker go on and dropping the handler are each a schedule of their
own, so what holds after every schedule holds of them too. The worker never goes on for ever: it
comes to wait, or to stop when the queue is shut.
-/

namespace CecGateway

/-- More than the worker can do with what is in the queue. -/
def Queue.workLeft (q : Queue) : Nat :=
  2 * q.waiting.length +
    match q.worker with
    | .starting => 2
    | .idle _ => 1
    | .busy _ _ => 2
    | .stopped => 0

theorem Queue.workLeft_lt_stepsLeft (q : Queue) : q.workLeft < q.stepsLeft := by
  unfold workLeft stepsLeft
  cases q.worker <;> simp

theorem Queue.exists_step_of_due {hardware : Hardware} {isHeld : Bool} {q : Queue} {s : Step}
    (hdue : q.due hardware isHeld = some s) : ∃ next, q.step s = some next := by
  unfold due at hdue
  cases hworker : q.worker with
  | starting =>
      simp only [hworker, Option.some_inj] at hdue
      cases hopening : hardware.opening <;> simp [← hdue, step, hworker, hopening]
  | idle fault? =>
      simp only [hworker] at hdue
      split at hdue
      · rename_i hshut
        simp [← Option.some_inj.mp hdue, step, hworker, hshut]
      · rename_i hopen
        split at hdue
        · contradiction
        · obtain rfl := Option.some_inj.mp hdue
          cases hwaiting : q.waiting with
          | nil => simp [hwaiting] at *
          | cons message waiting =>
              cases hcommand : commandFor fault? message <;>
                simp [step, hworker, hwaiting, hopen, hcommand]
  | busy fault? message =>
      simp only [hworker] at hdue
      split at hdue
      · contradiction
      · simp [← Option.some_inj.mp hdue, step, hworker]
  | stopped => simp [hworker] at hdue

theorem Queue.isWork_of_due {hardware : Hardware} {isHeld : Bool} {q : Queue} {s : Step}
    (hdue : q.due hardware isHeld = some s) : s.isWork := by
  unfold due at hdue
  split at hdue
  · obtain rfl := Option.some_inj.mp hdue
    rfl
  · split at hdue
    · obtain rfl := Option.some_inj.mp hdue
      rfl
    · split at hdue
      · contradiction
      · obtain rfl := Option.some_inj.mp hdue
        rfl
  · split at hdue
    · contradiction
    · obtain rfl := Option.some_inj.mp hdue
      rfl
  · contradiction

namespace Traffic

/-- The steps of calls that have begun, and of the worker. -/
def Step.isInternal : Step → Bool
  | .advance _ | .work _ => true
  | _ => false

/-- Possible steps, of those allowed, lead from one traffic to another and let these events be
seen. -/
inductive Leads (allowed : Step → Bool) : Traffic → List Event → Traffic → Prop
  | refl (t : Traffic) : Leads allowed t [] t
  | step {t middle next : Traffic} {s : Step} {events later : List Event}
      (hallowed : allowed s = true) (hstep : t.step s = some (middle, events))
      (hrest : Leads allowed middle later next) : Leads allowed t (events ++ later) next

variable {t middle next : Traffic} {s : Step} {events later : List Event} {allowed : Step → Bool}

theorem Leads.single (hallowed : allowed s = true) (hstep : t.step s = some (next, events)) :
    t.Leads allowed events next := by
  simpa using Leads.step hallowed hstep (.refl next)

theorem Leads.trans (h : t.Leads allowed events middle) (hrest : middle.Leads allowed later next) :
    t.Leads allowed (events ++ later) next := by
  induction h with
  | refl t => exact hrest
  | step hallowed hstep _ ih =>
      rw [List.append_assoc]
      exact .step hallowed hstep (ih hrest)

theorem Leads.of_internal (h : t.Leads Step.isInternal events next) :
    t.Leads (fun _ => true) events next := by
  induction h with
  | refl t => exact .refl t
  | step _ hstep _ ih => exact .step rfl hstep ih

theorem Leads.exists_schedule (h : t.Leads allowed events next) (history : History)
    (hnow : history.now = t) :
    ∃ schedule, (history.follow schedule).now = next ∧
      (history.follow schedule).events = history.events ++ events := by
  induction h generalizing history with
  | refl t => exact ⟨[], hnow, by simp [History.follow]⟩
  | @step t middle next s events later _ hstep _ ih =>
      obtain rfl := hnow
      have hextend : history.extend s = ⟨middle, history.past ++ [⟨history.now, s, events⟩]⟩ := by
        simp [History.extend, hstep]
      obtain ⟨schedule, hfollow, hevents⟩ := ih (history.extend s) (by rw [hextend])
      refine ⟨s :: schedule, hfollow, hevents.trans ?_⟩
      simp [hextend, History.events]

/-! ### Calls -/

section

variable (t : Traffic) (command : Command) (seq : Nat)

theorem step_number :
    ({ t with callers := t.callers ++ [⟨command, .validated⟩] } : Traffic).step
        (.advance t.callers.length) =
      some ({ t with
        handler := t.handler.allocate.2
        callers := t.callers ++ [⟨command, .numbered t.handler.allocate.1⟩] }, []) := by
  simp [Traffic.step, proceed]

theorem step_record :
    ({ t with callers := t.callers ++ [⟨command, .numbered seq⟩] } : Traffic).step
        (.advance t.callers.length) =
      some ({ t with
        handler := t.handler.record seq command
        callers := t.callers ++ [⟨command, .recorded seq⟩] }, []) := by
  simp [Traffic.step, proceed]

theorem step_submit :
    ({ t with callers := t.callers ++ [⟨command, .recorded seq⟩] } : Traffic).step
        (.advance t.callers.length) =
      some ({ t with handler := (t.handler.submit seq command.payload).1 },
        (t.handler.submit seq command.payload).2) := by
  simp [Traffic.step, proceed, List.eraseIdx_append_of_length_le]

/-- A call that has begun and that nothing interrupts. -/
theorem enter_leads :
    ∃ later, (t.handler.handle command).2 = (t.enter command).2 ++ later ∧
      (t.enter command).1.Leads Step.isInternal later
        { t with
          handler := (t.handler.handle command).1
          offered := t.offered ++ [command] } := by
  cases hvalidate : t.handler.validate command.payload with
  | error why => exact ⟨[], by simp [enter, Generic.handle, hvalidate, Leads.refl]⟩
  | ok =>
      let entered : Traffic := { t with offered := t.offered ++ [command] }
      let numbered : Traffic := { entered with handler := t.handler.allocate.2 }
      let seq := t.handler.allocate.1
      let recorded : Traffic := { numbered with handler := numbered.handler.record seq command }
      have hsubmit : Leads Step.isInternal _ _ _ := .single rfl (step_submit recorded command seq)
      have hcall := Leads.step rfl (step_number entered command)
        (.step rfl (step_record numbered command seq) hsubmit)
      refine ⟨(recorded.handler.submit seq command.payload).2, ?_, ?_⟩
      · simp [enter, Generic.handle, hvalidate, recorded, numbered, seq]
      · simpa [enter, Generic.handle, hvalidate] using hcall

/-- A call that nothing interrupts. -/
theorem handle_leads :
    t.Leads (fun _ => true) (t.handler.handle command).2
      { t with
        handler := (t.handler.handle command).1
        offered := t.offered ++ [command] } := by
  obtain ⟨later, hevents, hcall⟩ := enter_leads t command
  have henter : t.step (.offer command) = some (t.enter command) := rfl
  rw [hevents]
  exact .step rfl henter hcall.of_internal

end

/-! ### The worker -/

theorem settle_go_leads (hardware : Hardware) (isHeld : Bool) (fuel : Nat) (t : Traffic) :
    t.Leads Step.isInternal (Generic.settle.go hardware isHeld fuel t.handler).2
      { t with handler := (Generic.settle.go hardware isHeld fuel t.handler).1 } := by
  induction fuel generalizing t with
  | zero => exact .refl t
  | succ fuel ih =>
      unfold Generic.settle.go
      cases hnext : (t.handler.queue.due hardware isHeld).bind t.handler.work with
      | none => exact .refl t
      | some pair =>
          obtain ⟨handler, events⟩ := pair
          obtain ⟨s, hdue, hwork⟩ := Option.bind_eq_some_iff.mp hnext
          have hstep : t.step (.work s) = some ({ t with handler }, events) := by
            simp [Traffic.step, Queue.isWork_of_due hdue, hwork]
          exact .step rfl hstep (ih { t with handler })

theorem settle_leads (hardware : Hardware) (isHeld : Bool) (t : Traffic) :
    t.Leads Step.isInternal (t.handler.settle hardware isHeld).2
      { t with handler := (t.handler.settle hardware isHeld).1 } :=
  settle_go_leads hardware isHeld t.handler.queue.stepsLeft t

theorem Effect.workLeft_lt {step : Queue.Step} (h : t.Effect (.work step) next events) :
    next.handler.queue.workLeft < t.handler.queue.workLeft := by
  cases h with
  | started hworker hopening => simp [withQueue, Queue.workLeft, hworker]
  | popped hworker hwaiting hopen hgiven =>
      simp [withQueue, Queue.workLeft, hworker, hwaiting]
      omega
  | answered hworker hpending hresult => simp [Queue.workLeft, hworker]
  | unmatched hworker hpending => simp [Queue.workLeft, hworker]
  | stopped hworker hshut hcalls => simp [withQueue, Queue.workLeft, hworker]

theorem Effect.isShut_of_work {step : Queue.Step} (h : t.Effect (.work step) next events) :
    next.handler.queue.isShut = t.handler.queue.isShut := by
  cases h <;> simp [withQueue]

end Traffic

namespace Generic

/-- The worker goes on until nothing is due. -/
theorem settle_go_due (hardware : Hardware) (isHeld : Bool) {fuel : Nat} {g : Generic}
    (hfuel : g.queue.workLeft < fuel) :
    (settle.go hardware isHeld fuel g).1.queue.due hardware isHeld = none := by
  induction fuel generalizing g with
  | zero => omega
  | succ fuel ih =>
      unfold settle.go
      cases hnext : (g.queue.due hardware isHeld).bind g.work with
      | none =>
          cases hdue : g.queue.due hardware isHeld with
          | none => rfl
          | some s =>
              obtain ⟨next, hstep⟩ := Queue.exists_step_of_due hdue
              simp [hdue, work, hstep] at hnext
      | some pair =>
          obtain ⟨handler, events⟩ := pair
          obtain ⟨s, hdue, hwork⟩ := Option.bind_eq_some_iff.mp hnext
          have heffect :=
            Traffic.work_effect (t := { handler := g }) (Queue.isWork_of_due hdue) hwork
          have hlt := heffect.workLeft_lt
          exact ih (by simp at hlt; omega)

theorem settle_due (hardware : Hardware) (isHeld : Bool) (g : Generic) :
    (g.settle hardware isHeld).1.queue.due hardware isHeld = none :=
  settle_go_due hardware isHeld g.queue.workLeft_lt_stepsLeft

theorem settle_go_isShut (hardware : Hardware) (isHeld : Bool) (fuel : Nat) (g : Generic) :
    (settle.go hardware isHeld fuel g).1.queue.isShut = g.queue.isShut := by
  induction fuel generalizing g with
  | zero => rfl
  | succ fuel ih =>
      unfold settle.go
      cases hnext : (g.queue.due hardware isHeld).bind g.work with
      | none => rfl
      | some pair =>
          obtain ⟨handler, events⟩ := pair
          obtain ⟨s, hdue, hwork⟩ := Option.bind_eq_some_iff.mp hnext
          have heffect :=
            Traffic.work_effect (t := { handler := g }) (Queue.isWork_of_due hdue) hwork
          exact (ih handler).trans heffect.isShut_of_work

theorem settle_shut_worker (hardware : Hardware) (g : Generic) :
    (g.shut.settle hardware false).1.queue.worker = .stopped := by
  have hdue := settle_due hardware false g.shut
  have hshut : (g.shut.settle hardware false).1.queue.isShut = true :=
    settle_go_isShut hardware false g.shut.queue.stepsLeft g.shut
  unfold Queue.due at hdue
  cases hworker : (g.shut.settle hardware false).1.queue.worker <;> simp [hworker, hshut] at hdue
  rfl

end Generic

theorem Traffic.drop_leads (hardware : Hardware) (t : Traffic) :
    t.Leads (fun _ => true) (t.handler.drop hardware).2
      { t with handler := (t.handler.drop hardware).1, isDropped := true } := by
  let shut : Traffic := { t with handler := t.handler.shut }
  let settled : Traffic := { shut with handler := (shut.handler.settle hardware false).1 }
  have hshut : t.step .shut = some (shut, []) := rfl
  have hworker : settled.handler.queue.worker = .stopped :=
    Generic.settle_shut_worker hardware t.handler
  have habandon : settled.step .abandon =
      some ({ settled with handler := settled.handler.abandon.1, isDropped := true },
        settled.handler.abandon.2) := by
    simp [Traffic.step, hworker]
  have hsettle := (settle_leads hardware false shut).of_internal
  have hdrop := Leads.step rfl hshut (hsettle.trans (.single rfl habandon))
  rwa [List.nil_append] at hdrop

end CecGateway
