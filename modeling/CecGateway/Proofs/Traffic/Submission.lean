import CecGateway.Proofs.Traffic.Quiet

/-!
# A list of commands and the worker

A caller submits commands one after another while the worker goes on, and the two take turns in any
way. To wait for each completion before the next call is one such way, and to submit everything
while the hardware is held is another (`carryOut_turns`).
-/

namespace CecGateway

/-- Traffic with one caller, and the commands that it is still to submit. -/
structure Submission where
  traffic : Traffic
  left : List Command

namespace Submission

inductive Turn
  | caller
  | worker

def begin (g : Generic) (commands : List Command) : Submission := ⟨{ handler := g }, commands⟩

/-- The step that is due, and what is left to submit after it. -/
def due (hardware : Hardware) (s : Submission) : Turn → Option (Traffic.Step × List Command)
  | .caller =>
    match s.traffic.callers, s.left with
    | [], [] => none
    | [], command :: left => some (.offer command, left)
    | _ :: _, left => some (.advance 0, left)
  | .worker =>
    (s.traffic.handler.queue.due hardware false).map fun step => (.work step, s.left)

def step (hardware : Hardware) (s : Submission) (turn : Turn) :
    Option (Submission × List Event) := do
  let (step, left) ← s.due hardware turn
  let (traffic, events) ← s.traffic.step step
  return (⟨traffic, left⟩, events)

/-- Takes turns; one at which nothing is due is left out. -/
def run (hardware : Hardware) (s : Submission) : List Turn → Submission × List Event
  | [] => (s, [])
  | turn :: rest =>
    match s.step hardware turn with
    | none => s.run hardware rest
    | some (next, events) =>
      ((next.run hardware rest).1, events ++ (next.run hardware rest).2)

/-- All is submitted, and the worker waits. -/
structure Finished (hardware : Hardware) (s : Submission) : Prop where
  left : s.left = []
  callers : s.traffic.callers = []
  due : s.traffic.handler.queue.due hardware false = none

variable {hardware : Hardware} {s next : Submission} {turn : Turn} {events : List Event}

theorem run_cons_of_step (h : s.step hardware turn = some (next, events)) (rest : List Turn) :
    s.run hardware (turn :: rest) =
      ((next.run hardware rest).1, events ++ (next.run hardware rest).2) := by
  simp only [run, h]

theorem run_append (hardware : Hardware) (s : Submission) (turns later : List Turn) :
    s.run hardware (turns ++ later) =
      (((s.run hardware turns).1.run hardware later).1,
        (s.run hardware turns).2 ++ ((s.run hardware turns).1.run hardware later).2) := by
  induction turns generalizing s with
  | nil => rfl
  | cons turn rest ih =>
      cases hstep : s.step hardware turn with
      | none => simpa only [List.cons_append, run, hstep] using ih s
      | some pair =>
          obtain ⟨next, events⟩ := pair
          rw [List.cons_append, run_cons_of_step hstep, run_cons_of_step hstep, ih,
            List.append_assoc]

inductive Effect (hardware : Hardware) (s : Submission) : Submission → List Event → Prop
  | offered {command : Command} {left : List Command} {traffic : Traffic} {events : List Event}
      (hcallers : s.traffic.callers = []) (hleft : s.left = command :: left)
      (heffect : s.traffic.Effect (.offer command) traffic events) :
      Effect hardware s ⟨traffic, left⟩ events
  | advanced {traffic : Traffic} {events : List Event}
      (heffect : s.traffic.Effect (.advance 0) traffic events) :
      Effect hardware s ⟨traffic, s.left⟩ events
  | worked {step : Queue.Step} {traffic : Traffic} {events : List Event}
      (hdue : s.traffic.handler.queue.due hardware false = some step)
      (heffect : s.traffic.Effect (.work step) traffic events) :
      Effect hardware s ⟨traffic, s.left⟩ events

theorem effect_of_step (h : s.step hardware turn = some (next, events)) :
    s.Effect hardware next events := by
  obtain ⟨⟨step, left⟩, hdue, hnext⟩ := Option.bind_eq_some_iff.mp h
  obtain ⟨⟨traffic, seen⟩, hstep, hsame⟩ := Option.bind_eq_some_iff.mp hnext
  obtain ⟨rfl, rfl⟩ := hsame
  have heffect := Traffic.effect_of_step hstep
  cases turn with
  | caller =>
      simp only [due] at hdue
      split at hdue
      · contradiction
      · rename_i hcallers hleft
        obtain ⟨rfl, rfl⟩ := hdue
        exact .offered hcallers hleft heffect
      · obtain ⟨rfl, rfl⟩ := hdue
        exact .advanced heffect
  | worker =>
      obtain ⟨queued, hqueued, hsame⟩ := Option.map_eq_some_iff.mp hdue
      obtain ⟨rfl, rfl⟩ := hsame
      exact .worked hqueued heffect

/-- What holds of a submission and of what has been seen, and survives every effect, holds after
all turns. -/
theorem run_invariant {P : Submission → List Event → Prop}
    (hstep : ∀ s next seen events, P s seen → s.Effect hardware next events →
      P next (seen ++ events))
    {seen : List Event} (hbegin : P s seen) (turns : List Turn) :
    P (s.run hardware turns).1 (seen ++ (s.run hardware turns).2) := by
  induction turns generalizing s seen with
  | nil => simpa [run] using hbegin
  | cons turn rest ih =>
      cases hnext : s.step hardware turn with
      | none => simpa only [run, hnext] using ih hbegin
      | some pair =>
          obtain ⟨next, events⟩ := pair
          rw [run_cons_of_step hnext, ← List.append_assoc]
          exact ih (hstep s next seen events hbegin (effect_of_step hnext))

/-! ## Calls and the worker without interruption -/

def Reaches (hardware : Hardware) (s : Submission) (events : List Event) (next : Submission) :
    Prop :=
  ∃ turns, s.run hardware turns = (next, events)

theorem Reaches.trans {middle : Submission} {later : List Event}
    (h : s.Reaches hardware events middle) (hrest : middle.Reaches hardware later next) :
    s.Reaches hardware (events ++ later) next := by
  obtain ⟨turns, hturns⟩ := h
  obtain ⟨others, hothers⟩ := hrest
  exact ⟨turns ++ others, by rw [run_append, hturns, hothers]⟩

theorem Reaches.of_step (h : s.step hardware turn = some (next, events)) :
    s.Reaches hardware events next :=
  ⟨[turn], by rw [run_cons_of_step h, run, List.append_nil]⟩

theorem reaches_advance {t after : Traffic} (hcalling : t.callers ≠ [])
    (hstep : t.step (.advance 0) = some (after, events)) (left : List Command) :
    Reaches hardware ⟨t, left⟩ events ⟨after, left⟩ := by
  obtain ⟨caller, callers, hcallers⟩ := List.exists_cons_of_ne_nil hcalling
  have hturn : step hardware ⟨t, left⟩ .caller = some (⟨after, left⟩, events) := by
    simp [step, due, hcallers, hstep]
  exact .of_step hturn

theorem reaches_handle (hardware : Hardware) {t : Traffic} (hcallers : t.callers = [])
    (command : Command) (left : List Command) :
    Reaches hardware ⟨t, command :: left⟩ (t.handler.handle command).2
      ⟨{ t with
          handler := (t.handler.handle command).1
          offered := t.offered ++ [command] }, left⟩ := by
  have hoffer : step hardware ⟨t, command :: left⟩ .caller =
      some (⟨(t.enter command).1, left⟩, (t.enter command).2) := by
    simp [step, due, hcallers, Traffic.step]
  cases hvalidate : t.handler.validate command.payload with
  | error why =>
      simpa [Traffic.enter, Generic.handle, hvalidate] using Reaches.of_step hoffer
  | ok =>
      let entered : Traffic := { t with offered := t.offered ++ [command] }
      let numbered : Traffic := { entered with handler := t.handler.allocate.2 }
      let seq := t.handler.allocate.1
      let recorded : Traffic := { numbered with handler := numbered.handler.record seq command }
      have hnumber := Traffic.step_number entered command
      have hrecord := Traffic.step_record numbered command seq
      have hsubmit := Traffic.step_submit recorded command seq
      have hlength : entered.callers.length = 0 := by rw [hcallers]; rfl
      rw [hlength] at hnumber
      rw [show numbered.callers.length = 0 from hlength] at hrecord
      rw [show recorded.callers.length = 0 from hlength] at hsubmit
      have hcall : Reaches hardware ⟨_, left⟩ _ ⟨_, left⟩ :=
        (reaches_advance (by simp) hnumber left).trans
          ((reaches_advance (by simp) hrecord left).trans (reaches_advance (by simp) hsubmit left))
      have hentered : t.enter command = ({ entered with
          callers := entered.callers ++ [⟨command, .validated⟩] }, []) := by
        simp [Traffic.enter, hvalidate, entered]
      rw [hentered] at hoffer
      have hdone := (Reaches.of_step hoffer).trans hcall
      simpa [Generic.handle, hvalidate, recorded, numbered, entered, seq] using hdone

theorem due_of_held {q : Queue} {isHeld : Bool} {step : Queue.Step}
    (hdue : q.due hardware isHeld = some step) : q.due hardware false = some step := by
  unfold Queue.due at hdue ⊢
  cases hworker : q.worker <;> simp_all

theorem reaches_settle (hardware : Hardware) (isHeld : Bool) (s : Submission) :
    s.Reaches hardware (s.traffic.handler.settle hardware isHeld).2
      ⟨{ s.traffic with handler := (s.traffic.handler.settle hardware isHeld).1 }, s.left⟩ := by
  have hgo (fuel : Nat) (s : Submission) :
      s.Reaches hardware (Generic.settle.go hardware isHeld fuel s.traffic.handler).2
        ⟨{ s.traffic with
          handler := (Generic.settle.go hardware isHeld fuel s.traffic.handler).1 }, s.left⟩ := by
    induction fuel generalizing s with
    | zero => exact ⟨[], rfl⟩
    | succ fuel ih =>
        unfold Generic.settle.go
        cases hnext : (s.traffic.handler.queue.due hardware isHeld).bind s.traffic.handler.work with
        | none => exact ⟨[], rfl⟩
        | some pair =>
            obtain ⟨handler, events⟩ := pair
            obtain ⟨queued, hdue, hwork⟩ := Option.bind_eq_some_iff.mp hnext
            have hstep : s.step hardware .worker =
                some (⟨{ s.traffic with handler }, s.left⟩, events) := by
              simp [step, due, due_of_held hdue, Traffic.step, Queue.isWork_of_due hdue, hwork]
            exact (Reaches.of_step hstep).trans (ih ⟨{ s.traffic with handler }, s.left⟩)
  exact hgo s.traffic.handler.queue.stepsLeft s

end Submission

/-! ## Submitting in turn and submitting at once -/

namespace Generic

/-- Commands are submitted one after another, and after each the worker goes on until it waits for
a command or for held hardware. -/
def submitAll (hardware : Hardware) (isHeld : Bool) (g : Generic) :
    List Command → Generic × List Event
  | [] => (g, [])
  | command :: rest =>
    let called := g.handle command
    let settled := called.1.settle hardware isHeld
    let (after, later) := settled.1.submitAll hardware isHeld rest
    (after, called.2 ++ settled.2 ++ later)

/-- Commands are submitted, each when the one before is completed or all while the hardware is held,
and in the end the hardware is let go. -/
def carryOut (hardware : Hardware) (isHeld : Bool) (g : Generic) (commands : List Command) :
    Generic × List Event :=
  let (g, events) := g.submitAll hardware isHeld commands
  let (g, later) := g.settle hardware false
  (g, events ++ later)

end Generic

namespace Submission

theorem reaches_submitAll (hardware : Hardware) (isHeld : Bool) (commands : List Command)
    {t : Traffic} (hcallers : t.callers = []) :
    Reaches hardware ⟨t, commands⟩ (t.handler.submitAll hardware isHeld commands).2
      ⟨{ t with
          handler := (t.handler.submitAll hardware isHeld commands).1
          offered := t.offered ++ commands }, []⟩ := by
  induction commands generalizing t with
  | nil =>
      rw [List.append_nil]
      exact ⟨[], rfl⟩
  | cons command rest ih =>
      let called : Traffic := { t with
        handler := (t.handler.handle command).1
        offered := t.offered ++ [command] }
      let settled : Traffic := { called with
        handler := (called.handler.settle hardware isHeld).1 }
      have hcall := reaches_handle hardware hcallers command rest
      have hsettle := reaches_settle hardware isHeld ⟨called, rest⟩
      have hrest := @ih settled hcallers
      have hall := (hcall.trans hsettle).trans hrest
      simpa [Generic.submitAll, settled, called] using hall

/-- To carry out a list is to take turns until all is done, whether the hardware is held or not. -/
theorem carryOut_turns (hardware : Hardware) (isHeld : Bool) (g : Generic)
    (commands : List Command) :
    let done := g.carryOut hardware isHeld commands
    ∃ turns, (begin g commands).run hardware turns =
        (⟨{ handler := done.1, offered := commands }, []⟩, done.2) ∧
      Finished hardware ⟨{ handler := done.1, offered := commands }, []⟩ := by
  intro done
  have hsubmit := reaches_submitAll hardware isHeld commands (t := { handler := g }) rfl
  obtain ⟨turns, hturns⟩ := hsubmit.trans (reaches_settle hardware false _)
  exact ⟨turns, hturns, rfl, rfl, Generic.settle_due hardware false _⟩

end Submission

end CecGateway
