import CecGateway.Proofs.Traffic.Balance
import CecGateway.Proofs.Traffic.Runs

/-!
# One command at a time

A handler that has nothing under way takes a command, lets the worker go on, and has nothing under
way again: the command has been completed, and nothing else.
-/

namespace CecGateway

/-- Nothing is under way, and the queue is open. -/
structure Generic.Quiet (g : Generic) : Prop where
  pending : g.pending = []
  held : g.queue.held = []
  isOpen : g.queue.isShut = false
  isRunning : g.queue.worker ≠ .stopped

namespace Traffic

variable {t next : Traffic} {events : List Event} {allowed : Step → Bool}

theorem Leads.balanced (h : t.Leads allowed events next) (hbalanced : t.Balanced) :
    next.Balanced := by
  induction h with
  | refl t => exact hbalanced
  | step _ hstep _ ih => exact ih ((effect_of_step hstep).balanced hbalanced)

/-- Without new commands, what is under way is completed or stays under way. -/
theorem Leads.conserves (h : t.Leads Step.isInternal events next) :
    ((Event.completions events).map (·.1) ++ next.underway.map (·.ticket)).Perm
      (t.underway.map (·.ticket)) := by
  induction h with
  | refl t => simp
  | @step t middle next s events later hinternal hstep _ ih =>
      have hoffers : s.offers = [] := by cases s <;> first | rfl | contradiction
      have hconserves := (effect_of_step hstep).conserves
      rw [hoffers, List.append_nil] at hconserves
      rw [Event.completions_append, List.map_append, List.append_assoc]
      exact (ih.append_left _).trans hconserves

theorem Leads.stays_open (h : t.Leads Step.isInternal events next) :
    next.isDropped = t.isDropped ∧ next.handler.queue.isShut = t.handler.queue.isShut := by
  induction h with
  | refl t => exact ⟨rfl, rfl⟩
  | @step t middle next s events later hinternal hstep _ ih =>
      obtain ⟨hdropped, hshut⟩ := (effect_of_step hstep).stays_open
        (by rintro rfl; contradiction) (by rintro rfl; contradiction)
      exact ⟨ih.1.trans hdropped, ih.2.trans hshut⟩

theorem balanced_of_quiet {g : Generic} (hquiet : g.Quiet) : Balanced { handler := g } where
  isShut_of_stopped h := absurd h hquiet.isRunning
  stopped_of_isDropped h := by simp at h
  count_eq _ := by simp [owing, recordedSeqs, hquiet.pending, hquiet.held]
  count_le h := by simp at h

theorem Balanced.quiet (hbalanced : t.Balanced) (hlive : t.isDropped = false)
    (hcallers : t.callers = []) (hopen : t.handler.queue.isShut = false) {hardware : Hardware}
    (hdue : t.handler.queue.due hardware false = none) : t.handler.Quiet := by
  have hworker : t.handler.queue.worker ≠ .stopped := by
    intro hstopped
    have hshut := hbalanced.isShut_of_stopped hstopped
    simp [hopen] at hshut
  have hheld : t.handler.queue.held = [] := by
    obtain ⟨fault?, hidle, hwaiting⟩ := Queue.idle_of_due hdue hopen hworker
    simp [Queue.held, hidle, hwaiting]
  have hunderway : t.underway = [] := by
    by_contra hne
    exact hbalanced.held_ne_nil hlive hcallers hne hheld
  simp only [underway, hcallers, List.flatMap_nil, List.nil_append, List.map_eq_nil_iff]
    at hunderway
  exact ⟨hunderway, hheld, hopen, hworker⟩

end Traffic

/-- No call is in progress, the queue is open, and what is pending is what the queue holds: commands
may be under way. -/
structure Generic.Steady (g : Generic) : Prop where
  balanced : Traffic.Balanced { handler := g }
  isOpen : g.queue.isShut = false

/-- Whatever a handler has been used for, it is steady when no call is in progress. -/
theorem history_steady (defaultAdapter : String) (schedule : List Traffic.Step)
    (hlive : (history defaultAdapter schedule).now.isDropped = false)
    (hcallers : (history defaultAdapter schedule).now.callers = [])
    (hopen : (history defaultAdapter schedule).now.handler.queue.isShut = false) :
    (history defaultAdapter schedule).now.handler.Steady := by
  have hbegin : (History.begin defaultAdapter).now.Balanced :=
    Traffic.balanced_begin { defaultAdapter } rfl rfl rfl
  have hbalanced : (history defaultAdapter schedule).now.Balanced :=
    History.balanced_follow hbegin schedule
  refine ⟨⟨hbalanced.isShut_of_stopped, nofun, fun _ seq => ?_, nofun⟩, hopen⟩
  have hcount := hbalanced.count_eq hlive seq
  simpa [Traffic.owing, Traffic.recordedSeqs, hcallers] using hcount

/-- Whatever a handler has been used for, nothing is under way when no call is in progress and the
worker waits. -/
theorem history_quiet (defaultAdapter : String) (schedule : List Traffic.Step)
    {hardware : Hardware} (hlive : (history defaultAdapter schedule).now.isDropped = false)
    (hcallers : (history defaultAdapter schedule).now.callers = [])
    (hopen : (history defaultAdapter schedule).now.handler.queue.isShut = false)
    (hdue : (history defaultAdapter schedule).now.handler.queue.due hardware false = none) :
    (history defaultAdapter schedule).now.handler.Quiet :=
  (history_steady defaultAdapter schedule hlive hcallers hopen).balanced.quiet rfl rfl hopen hdue

namespace Generic

variable {g : Generic}

theorem Quiet.steady (hquiet : g.Quiet) : g.Steady :=
  ⟨Traffic.balanced_of_quiet hquiet, hquiet.isOpen⟩

/-- When the worker waits again, nothing is under way any more. -/
theorem Steady.settle (hsteady : g.Steady) (hardware : Hardware) :
    (g.settle hardware false).1.Quiet := by
  have hleads := Traffic.settle_leads hardware false { handler := g }
  obtain ⟨-, hshut⟩ := hleads.stays_open
  exact (hleads.balanced hsteady.balanced).quiet rfl rfl (hshut.trans hsteady.isOpen)
    (settle_due hardware false g)

theorem Steady.handle (hsteady : g.Steady) (hardware : Hardware) (command : Command) :
    ((g.handle command).1.settle hardware false).1.Quiet := by
  let t : Traffic := { handler := g }
  obtain ⟨later, -, hcall⟩ := Traffic.enter_leads t command
  have heffect := Traffic.enter_effect t command
  have hleads := hcall.trans (Traffic.settle_leads hardware false
    { t with handler := (g.handle command).1, offered := t.offered ++ [command] })
  obtain ⟨hlive, hopen⟩ := heffect.stays_open (by simp) (by simp)
  obtain ⟨hdropped, hshut⟩ := hleads.stays_open
  exact (hleads.balanced (heffect.balanced hsteady.balanced)).quiet (hdropped.trans hlive) rfl
    ((hshut.trans hopen).trans hsteady.isOpen) (settle_due hardware false (g.handle command).1)

theorem Quiet.settle (hquiet : g.Quiet) (hardware : Hardware) :
    (g.settle hardware false).1.Quiet ∧ Event.completions (g.settle hardware false).2 = [] := by
  refine ⟨hquiet.steady.settle hardware, ?_⟩
  have hconserves := (Traffic.settle_leads hardware false { handler := g }).conserves
  simp only [Traffic.underway, hquiet.pending, List.flatMap_nil, List.map_nil, List.append_nil,
    List.perm_nil, List.append_eq_nil_iff, List.map_eq_nil_iff] at hconserves
  exact hconserves.1

/-- A command is completed by the time the worker waits again. -/
theorem Quiet.handle (hquiet : g.Quiet) (hardware : Hardware) (command : Command) :
    ((g.handle command).1.settle hardware false).1.Quiet ∧
      ∃ result, Event.completions
        ((g.handle command).2 ++ ((g.handle command).1.settle hardware false).2) =
          [(command.ticket, result)] := by
  let t : Traffic := { handler := g }
  obtain ⟨later, hevents, hcall⟩ := Traffic.enter_leads t command
  have hleads := hcall.trans (Traffic.settle_leads hardware false
    { t with handler := (g.handle command).1, offered := t.offered ++ [command] })
  have hafter := hquiet.steady.handle hardware command
  refine ⟨hafter, ?_⟩
  have hentered := (Traffic.enter_effect t command).conserves
  have hlater : ((Event.completions
      (later ++ ((g.handle command).1.settle hardware false).2)).map (·.1)).Perm
        ((t.enter command).1.underway.map (·.ticket)) := by
    have hpending := hafter.pending
    simpa [Traffic.underway, hpending, t] using hleads.conserves
  have hperm : ((Event.completions ((t.enter command).2 ++ later ++
      ((g.handle command).1.settle hardware false).2)).map (·.1)).Perm [command.ticket] := by
    rw [List.append_assoc, Event.completions_append, List.map_append]
    refine (hlater.append_left _).trans (hentered.trans ?_)
    simp [t, Traffic.underway, hquiet.pending, Traffic.Step.offers]
  rw [← hevents, List.perm_singleton] at hperm
  obtain ⟨⟨_, result⟩, hsingle, rfl⟩ := List.map_eq_singleton_iff.mp hperm
  exact ⟨result, hsingle⟩

end Generic

end CecGateway
