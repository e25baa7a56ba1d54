import CecGateway.Proofs.Controller
import CecGateway.Proofs.Serving.Progress

/-!
# A session as a run of the steps

A session that waits for every answer is one of the runs: each line that it reads is a step of the
reader, followed by the call, the worker and the answer.
-/

namespace CecGateway

namespace Ledger

theorem deliver_append (l : Ledger) (completions later : List (Nat × Result)) :
    (l.deliver completions).deliver later = l.deliver (completions ++ later) := by
  simp [deliver]

theorem complete_await {l : Ledger} (hawaited : l.awaited = []) (number : Nat)
    (id : Option Json) (result : Result) :
    (l.await number id).complete number result =
      ⟨[], l.answers ++ [(number, .ofResult id result)]⟩ := by
  simp [await, complete, hawaited]

end Ledger

namespace Serving

def Reaches (s next : Serving) : Prop := ∃ steps, s.run steps = next

variable {s middle next : Serving} {lines : List (List UInt8)}

theorem run_append (s : Serving) (steps later : List Step) :
    s.run (steps ++ later) = (s.run steps).run later := by
  simp [run, List.foldl_append]

theorem Reaches.refl (s : Serving) : s.Reaches s := ⟨[], rfl⟩

theorem Reaches.trans (h : s.Reaches middle) (hrest : middle.Reaches next) : s.Reaches next := by
  obtain ⟨steps, rfl⟩ := h
  obtain ⟨later, rfl⟩ := hrest
  exact ⟨steps ++ later, run_append s steps later⟩

theorem Reaches.of_step {step : Step} (hstep : s.step step = some next) : s.Reaches next :=
  ⟨[step], by simp [run, hstep]⟩

theorem run_invariant {P : Serving → Prop} (hstart : P s)
    (hpreserved : ∀ s next, P s → s.Effect next → P next) (steps : List Step) :
    P (s.run steps) := by
  induction steps generalizing s with
  | nil => exact hstart
  | cons step steps ih =>
      rw [Serving.run, List.foldl_cons]
      apply ih
      cases hstep : s.step step with
      | none => exact hstart
      | some next => exact hpreserved s next hstart (effect_of_step hstep)

theorem Sound.run (hsound : s.Sound lines) (steps : List Step) : (s.run steps).Sound lines :=
  run_invariant hsound (fun _ _ hsound heffect => heffect.sound hsound) steps

theorem offer_frame (s : Serving) (command : Command) :
    (s.offer command).waits = s.waits ∧
      (s.offer command).traffic?.isSome = s.traffic?.isSome := by
  cases htraffic : s.traffic? with
  | none => simp [offer_of_none htraffic, htraffic]
  | some t => simp [offer_of_some htraffic]

/-- No step changes whether the reader waits, or whether there is a generic handler. -/
theorem Effect.frame (h : s.Effect next) :
    next.waits = s.waits ∧ next.traffic?.isSome = s.traffic?.isSome := by
  cases h with
  | read hunread hreading =>
      unfold take
      split
      · exact ⟨rfl, rfl⟩
      · split
        · exact ⟨rfl, rfl⟩
        · exact offer_frame _ _
  | handler ht hinternal hstep => exact ⟨rfl, by rw [ht]; rfl⟩
  | write hunwritten => exact ⟨rfl, rfl⟩

theorem run_frame (s : Serving) (steps : List Step) :
    (s.run steps).waits = s.waits ∧ (s.run steps).traffic?.isSome = s.traffic?.isSome := by
  apply run_invariant (P := fun next =>
    next.waits = s.waits ∧ next.traffic?.isSome = s.traffic?.isSome) ⟨rfl, rfl⟩
  intro middle next hmiddle heffect
  obtain ⟨hwaits, htraffic⟩ := heffect.frame
  exact ⟨hwaits.trans hmiddle.1, htraffic.trans hmiddle.2⟩

/-! ## Steps of the handler and of the writer -/

theorem Reaches.handler {t after : Traffic} {events : List Event}
    (hleads : t.Leads Traffic.Step.isInternal events after) (htraffic : s.traffic? = some t) :
    s.Reaches { s with
      traffic? := some after
      ledger := s.ledger.deliver (Event.completions events) } := by
  induction hleads generalizing s with
  | refl t =>
      rw [← htraffic]
      exact .refl s
  | @step t middle after step events later hinternal hstep _ ih =>
      have hfirst : s.step (.handler step) = some { s with
          traffic? := some middle
          ledger := s.ledger.deliver (Event.completions events) } := by
        simp [Serving.step, htraffic, hinternal, hstep]
      have hrest := ih (s := { s with
        traffic? := some middle
        ledger := s.ledger.deliver (Event.completions events) }) rfl
      rw [Event.completions_append]
      simp only [Ledger.deliver, List.foldl_append] at hrest ⊢
      exact (Reaches.of_step hfirst).trans hrest

theorem Reaches.write (hwritten : s.written ≤ s.ledger.answers.length) :
    s.Reaches { s with written := s.ledger.answers.length } := by
  obtain ⟨left, hleft⟩ := Nat.le.dest hwritten
  induction left generalizing s with
  | zero =>
      rw [← hleft]
      exact .refl s
  | succ left ih =>
      have hlt : s.written < s.ledger.answers.length := by omega
      have hfirst : s.step .write = some { s with written := s.written + 1 } := by
        simp [Serving.step, hlt]
      have hrest := ih (s := { s with written := s.written + 1 }) hlt (by
        simp only
        omega)
      exact (Reaches.of_step hfirst).trans hrest

/-! ## Steps of the reader -/

section

variable {line : List UInt8} {unread : List (List UInt8)} {id : Option Json} {payload : Payload}

theorem step_read_rejected (hunread : s.unread = line :: unread) (hreading : s.isReading = false)
    (hblank : isBlankLine line = false) (hline : Reading.ofLine line = .rejected id) :
    s.step .read = some { s with
      unread
      requests := s.requests ++ [line]
      rejected := s.rejected + 1
      ledger := s.ledger.reject (s.requests.length + 1) id } := by
  simp [Serving.step, hunread, hreading, take, hblank, hline]

theorem step_read_command (hunread : s.unread = line :: unread) (hreading : s.isReading = false)
    (hblank : isBlankLine line = false) (hline : Reading.ofLine line = .command id payload) :
    s.step .read = some ({ s with
      unread
      requests := s.requests ++ [line]
      ledger := s.ledger.await (s.requests.length + 1) id }.offer
        ⟨s.requests.length + 1, payload⟩) := by
  simp [Serving.step, hunread, hreading, take, hblank, hline]

theorem step_read_blank (hunread : s.unread = line :: unread) (hreading : s.isReading = false)
    (hblank : isBlankLine line = true) : s.step .read = some { s with unread } := by
  simp [Serving.step, hunread, hreading, take, hblank]

end

end Serving

theorem answersTo_eq (ticket : Nat) (id : Option Json) (events : List Event) :
    answersTo ticket id events = (Event.completions events).filterMap fun (number, result) =>
      if number = ticket then some (.ofResult id result) else none := by
  rw [answersTo, Event.completions, List.filterMap_filterMap]
  congr 1
  funext event
  cases event <;> rfl

/-! ## Reading as steps -/

namespace Session

/-- A session between two lines, and a state of a run that is as far. -/
structure Matches (watches : Bool) (x : Session) (s : Serving) : Prop where
  rests : x.controller.Rests watches (s.traffic?.map (·.handler))
  callers_eq : ∀ t, s.traffic? = some t → t.callers = []
  summary_eq : x.summary = ⟨s.requests.length, s.rejected⟩
  answers_eq : x.answers = s.ledger.answers.map (·.2)
  awaited_eq : s.ledger.awaited = []
  completed_eq : (Event.completions x.events).map (·.1) = (commandsOf s.requests).map (·.ticket)
  offered_eq : Event.offers x.events =
    if watches || s.traffic?.isSome then (commandsOf s.requests).map (·.payload) else []

/-- Steps lead from a state to one that is as far as the session, with these lines left. -/
def FollowsFrom (watches : Bool) (unread : List (List UInt8)) (s : Serving) (x : Session) : Prop :=
  ∃ next, s.Reaches next ∧ x.Matches watches next ∧ next.unread = unread ∧ next.written = s.written

variable {watches : Bool} {x : Session} {s : Serving} {line : List UInt8}
  {unread : List (List UInt8)} {id : Option Json} {payload : Payload}

theorem read_rejected (hardware : Hardware) (x : Session)
    (hline : Reading.ofLine line = .rejected id) :
    x.read hardware line = { x with
      summary := ⟨x.summary.requests + 1, x.summary.rejected + 1⟩
      answers := x.answers ++ [.badInput id] } := by
  simp only [read, hline]

theorem read_command (hardware : Hardware) (x : Session)
    (hline : Reading.ofLine line = .command id payload) :
    let dispatched := x.controller.dispatch hardware ⟨x.summary.requests + 1, payload⟩
    x.read hardware line = { x with
      controller := dispatched.1
      summary := { x.summary with requests := x.summary.requests + 1 }
      events := x.events ++ dispatched.2.2
      answers := x.answers ++ answersTo (x.summary.requests + 1) id dispatched.2.2 } := by
  simp only [read, hline]

theorem Matches.isReading_eq_false (h : x.Matches watches s) : s.isReading = false := by
  cases htraffic : s.traffic? with
  | none => simp [Serving.isReading, htraffic, h.awaited_eq]
  | some t => simp [Serving.isReading, htraffic, h.awaited_eq, h.callers_eq t htraffic]

theorem Matches.read_rejected (h : x.Matches watches s) (hardware : Hardware)
    (hunread : s.unread = line :: unread) (hblank : isBlankLine line = false)
    (hline : Reading.ofLine line = .rejected id) :
    (x.read hardware line).FollowsFrom watches unread s := by
  have hstep := Serving.step_read_rejected hunread h.isReading_eq_false hblank hline
  refine ⟨_, .of_step hstep, ?_, rfl, rfl⟩
  rw [Session.read_rejected hardware x hline]
  refine ⟨h.rests, h.callers_eq, ?_, ?_, h.awaited_eq, ?_, ?_⟩
  · simp [h.summary_eq]
  · simp [h.answers_eq, Ledger.reject]
  · rw [h.completed_eq, commandsOf_append_rejected hline]
  · rw [h.offered_eq, commandsOf_append_rejected hline]

/-- The session goes on as a state does that has the command's result as its latest answer. -/
theorem Matches.read_command (h : x.Matches watches s) (hardware : Hardware)
    (hline : Reading.ofLine line = .command id payload) (traffic? : Option Traffic)
    (hsame : traffic?.isSome = s.traffic?.isSome)
    (hcallers : ∀ t, traffic? = some t → t.callers = []) {result : Result} :
    let dispatched := x.controller.dispatch hardware ⟨s.requests.length + 1, payload⟩
    dispatched.1.Rests watches (traffic?.map (·.handler)) →
      Event.completions dispatched.2.2 = [(s.requests.length + 1, result)] →
      Event.offers dispatched.2.2 = (if watches || traffic?.isSome then [payload] else []) →
      (x.read hardware line).Matches watches { s with
        unread
        traffic?
        requests := s.requests ++ [line]
        ledger := ⟨[], s.ledger.answers ++ [(s.requests.length + 1, .ofResult id result)]⟩ } := by
  intro dispatched hrests hcompletions hoffers
  rw [Session.read_command hardware x hline, h.summary_eq]
  refine ⟨hrests, hcallers, ?_, ?_, rfl, ?_, ?_⟩
  · rw [List.length_append, List.length_singleton]
  · rw [answersTo_eq, hcompletions, h.answers_eq]
    simp
  · rw [Event.completions_append, List.map_append, h.completed_eq, hcompletions,
      commandsOf_append_command hline, List.map_append]
    rfl
  · rw [Event.offers_append, h.offered_eq, hoffers, hsame, commandsOf_append_command hline,
      List.map_append]
    split <;> rfl

theorem Matches.read_without_generic (h : x.Matches watches s) (hardware : Hardware)
    (hunread : s.unread = line :: unread) (hblank : isBlankLine line = false)
    (hline : Reading.ofLine line = .command id payload) (htraffic : s.traffic? = none) :
    (x.read hardware line).FollowsFrom watches unread s := by
  have hholds := h.rests.holds
  rw [htraffic] at hholds
  obtain ⟨hafter, hcompletions, hoffers⟩ :=
    hholds.dispatch_without_generic hardware ⟨s.requests.length + 1, payload⟩
  have hstep := Serving.step_read_command hunread h.isReading_eq_false hblank hline
  rw [Serving.offer_of_none (by exact htraffic)] at hstep
  simp only [Ledger.complete_await h.awaited_eq, htraffic] at hstep
  refine ⟨_, .of_step hstep, ?_, rfl, rfl⟩
  apply h.read_command hardware hline none
  · rw [htraffic]
  · simp
  · exact ⟨hafter, by simp⟩
  · exact hcompletions
  · simpa using hoffers

theorem Matches.read_generic (h : x.Matches watches s) (hardware : Hardware)
    (hunread : s.unread = line :: unread) (hblank : isBlankLine line = false)
    (hline : Reading.ofLine line = .command id payload) {t : Traffic}
    (htraffic : s.traffic? = some t) :
    (x.read hardware line).FollowsFrom watches unread s := by
  obtain ⟨hholds, hquiet⟩ := h.rests
  have hawaited := h.awaited_eq
  have hcallers := h.callers_eq t htraffic
  rw [htraffic] at hholds hquiet
  have hquiet := hquiet t.handler rfl
  let command : Command := ⟨s.requests.length + 1, payload⟩
  -- the worker begins, if this is the first command
  let awake : Traffic := { t with handler := (x.controller.awaken hardware t.handler).1 }
  obtain ⟨hawake, hnothing⟩ := Controller.quiet_awaken hquiet hardware x.controller
  let ready : Serving := { s with traffic? := some awake }
  have hready : s.Reaches ready := by
    have hleads := Serving.Reaches.handler (x.controller.awaken_leads hardware t) htraffic
    rwa [hnothing] at hleads
  -- the line is read, and the call begins
  let called : Serving := { ready with
    unread
    traffic? := some (awake.enter command).1
    requests := s.requests ++ [line]
    ledger := (s.ledger.await command.ticket id).deliver
      (Event.completions (awake.enter command).2) }
  have hreading : ready.isReading = false := by
    simp [Serving.isReading, ready, awake, hcallers, hawaited]
  have hcalled : ready.step .read = some called := by
    rw [Serving.step_read_command (s := ready) hunread hreading hblank hline]
    rfl
  -- the call and the worker go on until the command is completed
  obtain ⟨later, hcall, hleads⟩ := Traffic.enter_leads awake command
  let handled : Traffic :=
    { awake with handler := (awake.handler.handle command).1, offered := t.offered ++ [command] }
  let settled : Traffic := { handled with handler := (handled.handler.settle hardware false).1 }
  have hsettle := Traffic.settle_leads hardware false handled
  have hrest := Serving.Reaches.handler (s := called) (hleads.trans hsettle) rfl
  obtain ⟨hafter, result, hcompletions⟩ := hawake.handle hardware command
  have hledger : called.ledger.deliver (Event.completions
      (later ++ (handled.handler.settle hardware false).2)) =
        ⟨[], s.ledger.answers ++ [(command.ticket, .ofResult id result)]⟩ := by
    rw [Ledger.deliver_append, ← Event.completions_append, ← List.append_assoc, ← hcall,
      hcompletions]
    exact Ledger.complete_await hawaited command.ticket id result
  rw [hledger] at hrest
  refine ⟨_, (hready.trans (.of_step hcalled)).trans hrest, ?_, rfl, rfl⟩
  obtain ⟨hdispatched, hevents, hoffers, -⟩ := hholds.dispatch_generic hquiet hardware command
  apply h.read_command hardware hline (some settled)
  · rw [htraffic]
    rfl
  · intro next hnext
    obtain rfl := Option.some_inj.mp hnext
    exact hcallers
  · refine ⟨hdispatched, fun g hg => ?_⟩
    obtain rfl := Option.some_inj.mp hg
    exact hafter
  · exact hevents.trans hcompletions
  · simpa using hoffers

theorem Matches.read (h : x.Matches watches s) (hardware : Hardware)
    (hunread : s.unread = line :: unread) (hblank : isBlankLine line = false) :
    (x.read hardware line).FollowsFrom watches unread s := by
  cases hline : Reading.ofLine line with
  | rejected id => exact h.read_rejected hardware hunread hblank hline
  | command id payload =>
      cases htraffic : s.traffic? with
      | none => exact h.read_without_generic hardware hunread hblank hline htraffic
      | some t => exact h.read_generic hardware hunread hblank hline htraffic

/-- Blank lines are read too, and nothing comes of them. -/
theorem Matches.foldl_read (h : x.Matches watches s) (hardware : Hardware)
    {lines : List (List UInt8)} (hunread : s.unread = lines) :
    ((lines.filter (!isBlankLine ·)).foldl (Session.read hardware) x).FollowsFrom watches [] s := by
  induction lines generalizing x s with
  | nil => exact ⟨s, .refl s, h, hunread, rfl⟩
  | cons line unread ih =>
      by_cases hblank : isBlankLine line = true
      · rw [List.filter_cons_of_neg (by simp [hblank])]
        have hstep := Serving.step_read_blank hunread h.isReading_eq_false hblank
        have hpassed : x.Matches watches { s with unread } :=
          ⟨h.rests, h.callers_eq, h.summary_eq, h.answers_eq, h.awaited_eq, h.completed_eq,
            h.offered_eq⟩
        obtain ⟨next, hreaches, hnext⟩ := ih hpassed rfl
        exact ⟨next, (Serving.Reaches.of_step hstep).trans hreaches, hnext⟩
      · rw [List.filter_cons_of_pos (by simp [hblank]), List.foldl_cons]
        obtain ⟨middle, hfirst, hmiddle, hrest, hwritten⟩ :=
          h.read hardware hunread (by simpa using hblank)
        obtain ⟨next, hreaches, hnext, hnone, hunchanged⟩ := ih hmiddle hrest
        exact ⟨next, hfirst.trans hreaches, hnext, hnone, hunchanged.trans hwritten⟩

theorem matches_start {c : Controller} {generic? : Option Generic}
    (hrests : c.Rests watches generic?) (waits : Bool) (input : List UInt8) :
    Matches watches { controller := c } (Serving.start generic? waits input) where
  rests := by simpa [Serving.start, Function.comp_def] using hrests
  callers_eq := by
    intro t ht
    obtain ⟨g, hg, rfl⟩ := Option.map_eq_some_iff.mp ht
    rfl
  summary_eq := rfl
  answers_eq := rfl
  awaited_eq := rfl
  completed_eq := rfl
  offered_eq := by simp [Event.offers, Serving.start, commandsOf]

end Session

end CecGateway
