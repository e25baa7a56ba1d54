import CecGateway.Proofs.Serving
import Mathlib.Algebra.GroupWithZero.Nat

/-!
# Serving comes to an end

As long as a session is not finished, the reader, a call, the worker or the writer can go on; and
none of them can go on for ever.
-/

namespace CecGateway

/-- More than what is left to do for a call, its message and its answer. -/
def Caller.workLeft (c : Caller) : Nat :=
  match c.progress with
  | .validated => 7
  | .numbered _ => 6
  | .recorded _ => 5

namespace Traffic

def workLeft (t : Traffic) : Nat :=
  (t.callers.map (·.workLeft)).sum + 2 * t.handler.queue.workLeft

variable {t next : Traffic} {s : Step} {events : List Event}

theorem enter_workLeft_le (t : Traffic) (command : Command) :
    (t.enter command).1.workLeft + (Event.completions (t.enter command).2).length ≤
      t.workLeft + 7 := by
  unfold enter
  split
  · simp [workLeft, Generic.fail]
  · simp [workLeft, Caller.workLeft]
    omega

theorem Effect.workLeft_add_lt (h : t.Effect s next events) (hinternal : s.isInternal = true) :
    next.workLeft + (Event.completions events).length < t.workLeft := by
  cases h with
  | rejected | entered | subscribed | closed | abandoned => contradiction
  | numbered hcallers => simp [workLeft, hcallers, Caller.workLeft, Generic.allocate]
  | recorded hcallers => simp [workLeft, hcallers, Caller.workLeft, Generic.record]
  | submitted hcallers hopen =>
      simp [workLeft, hcallers, Caller.workLeft, withQueue, Queue.workLeft]
      omega
  | refused hcallers hshut hpending =>
      simp [workLeft, hcallers, Caller.workLeft, Generic.fail]
      omega
  | bereft hcallers hshut hpending =>
      simp [workLeft, hcallers, Caller.workLeft]
  | started hworker hopening =>
      simp [workLeft, withQueue, Queue.workLeft, hworker, Event.completions]
  | popped hworker hwaiting hopen hgiven =>
      simp [workLeft, withQueue, Queue.workLeft, hworker, hwaiting]
      omega
  | answered hworker hpending hresult =>
      simp [workLeft, Queue.workLeft, hworker]
      omega
  | unmatched hworker hpending =>
      simp [workLeft, Queue.workLeft, hworker, afterwards]
  | stopped hworker hshut hcalls =>
      simp [workLeft, withQueue, Queue.workLeft, hworker]

theorem exists_work_step (hbalanced : t.Balanced) (hopen : t.handler.queue.isShut = false)
    (hheld : t.handler.queue.held ≠ []) :
    ∃ s next, s.isInternal = true ∧ t.step s = some next := by
  cases hworker : t.handler.queue.worker with
  | starting =>
      refine ⟨.work (.start (.ok ())), ?_⟩
      simp [Step.isInternal, Traffic.step, Queue.Step.isWork, Generic.work, Queue.step, hworker]
  | idle fault? =>
      cases hwaiting : t.handler.queue.waiting with
      | nil => simp [Queue.held, hworker, hwaiting] at hheld
      | cons message waiting =>
          refine ⟨.work .pop, ?_⟩
          cases hcommand : Queue.commandFor fault? message <;>
            simp [Step.isInternal, Traffic.step, Queue.Step.isWork, Generic.work, Queue.step,
              hworker, hwaiting, hopen, hcommand]
  | busy fault? message =>
      refine ⟨.work (.finish (.ok (.lines []))), ?_⟩
      simp [Step.isInternal, Traffic.step, Queue.Step.isWork, Generic.work, Queue.step, hworker]
  | stopped =>
      have hshut := hbalanced.isShut_of_stopped hworker
      simp [hopen] at hshut

/-- While something is under way, a call or the worker of an open queue can go on. -/
theorem exists_internal_step (hbalanced : t.Balanced) (hopen : t.handler.queue.isShut = false)
    (hunderway : t.underway ≠ [] ∨ t.callers ≠ []) :
    ∃ s next, s.isInternal = true ∧ t.step s = some next := by
  cases hcallers : t.callers with
  | cons c rest =>
      exact ⟨.advance 0, t.proceed 0 c, rfl, by simp [Traffic.step, hcallers]⟩
  | nil =>
      have hlive : t.isDropped = false := by
        rw [Bool.eq_false_iff]
        intro hdropped
        have hshut := hbalanced.isShut_of_isDropped hdropped
        simp [hopen] at hshut
      have hunderway : t.underway ≠ [] := hunderway.resolve_right (by simp [hcallers])
      exact exists_work_step hbalanced hopen (hbalanced.held_ne_nil hlive hcallers hunderway)

end Traffic

namespace Ledger

theorem length_answers_complete_le (l : Ledger) (number : Nat) (result : Result) :
    (l.complete number result).answers.length ≤ l.answers.length + 1 := by
  unfold Ledger.complete
  split <;> simp

theorem length_answers_deliver_le (l : Ledger) (completions : List (Nat × Result)) :
    (l.deliver completions).answers.length ≤ l.answers.length + completions.length := by
  induction completions generalizing l with
  | nil => exact Nat.le_refl _
  | cons c rest ih =>
      have hrest := ih (l.complete c.1 c.2)
      have hfirst := l.length_answers_complete_le c.1 c.2
      simp only [deliver, List.foldl_cons, List.length_cons] at hrest ⊢
      omega

end Ledger

namespace Serving

def workLeft (s : Serving) : Nat :=
  8 * s.unread.length + s.traffic?.elim 0 (·.workLeft) + (s.ledger.answers.length - s.written)

variable {s next : Serving} {lines : List (List UInt8)}

theorem offer_workLeft_le (s : Serving) (command : Command) :
    (s.offer command).workLeft ≤ s.workLeft + 7 := by
  cases htraffic : s.traffic? with
  | none =>
      have hle := s.ledger.length_answers_complete_le command.ticket
        (.failure command.payload.kind .unknown)
      rw [offer_of_none htraffic]
      simp only [workLeft]
      omega
  | some t =>
      have henter := t.enter_workLeft_le command
      have hle := s.ledger.length_answers_deliver_le (Event.completions (t.enter command).2)
      rw [offer_of_some htraffic]
      simp only [workLeft, htraffic, Option.elim]
      omega

theorem take_workLeft_le (s : Serving) (line : List UInt8) :
    (s.take line).workLeft ≤ s.workLeft + 7 := by
  unfold Serving.take
  split
  · omega
  · split
    · simp only [workLeft, Ledger.reject, List.length_append, List.length_singleton]
      omega
    · rename_i id payload _
      exact offer_workLeft_le _ ⟨s.requests.length + 1, payload⟩

theorem Effect.workLeft_lt (h : s.Effect next) : next.workLeft < s.workLeft := by
  cases h with
  | @read line unread hunread hreading =>
      have hle := take_workLeft_le { s with unread } line
      simp only [workLeft, hunread, List.length_cons] at hle ⊢
      omega
  | @handler t after step events ht hinternal hstep =>
      have hlt := (Traffic.effect_of_step hstep).workLeft_add_lt hinternal
      have hle := s.ledger.length_answers_deliver_le (Event.completions events)
      simp only [workLeft, ht, Option.elim] at hlt ⊢
      omega
  | write hunwritten =>
      simp only [workLeft]
      omega

theorem exists_read (hunread : s.unread ≠ []) (hreading : s.isReading = false) :
    ∃ step next, s.step step = some next := by
  cases hlines : s.unread with
  | nil => contradiction
  | cons line unread =>
      exact ⟨.read, { s with unread }.take line, by simp [Serving.step, hlines, hreading]⟩

/-- A session that is not finished is not stuck. -/
theorem exists_step (hsound : s.Sound lines) (hfinished : s.isFinished = false) :
    ∃ step next, s.step step = some next := by
  by_cases hwritten : s.written < s.ledger.answers.length
  · exact ⟨.write, { s with written := s.written + 1 }, by simp [Serving.step, hwritten]⟩
  have hrest : s.ledger.awaited = [] → s.unread ≠ [] := by
    rintro hawaited hunread
    have heq : s.written = s.ledger.answers.length := by
      have hle := hsound.written_le
      omega
    simp [isFinished, hawaited, hunread, heq] at hfinished
  cases htraffic : s.traffic? with
  | none =>
      have hawaited := hsound.idle htraffic
      exact exists_read (hrest hawaited) (by simp [isReading, htraffic, hawaited])
  | some t =>
      obtain ⟨hbalanced, hlive, hopen, -, hunderway⟩ := hsound.attends t htraffic
      by_cases hbusy : t.underway ≠ [] ∨ t.callers ≠ []
      · obtain ⟨step, ⟨after, events⟩, hinternal, hstep⟩ :=
          Traffic.exists_internal_step hbalanced hopen hbusy
        exact ⟨.handler step, _, by simp [Serving.step, htraffic, hinternal, hstep]; rfl⟩
      · simp only [ne_eq, not_or, not_not] at hbusy
        have hawaited : s.ledger.awaited = [] := by
          simpa [hbusy.1] using hunderway
        exact exists_read (hrest hawaited) (by simp [isReading, htraffic, hawaited, hbusy.2])

end Serving

end CecGateway
