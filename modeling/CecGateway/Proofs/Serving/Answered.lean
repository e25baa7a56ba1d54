import CecGateway.Daemon
import CecGateway.Proofs.Lines
import CecGateway.Proofs.Serving.Session
import Mathlib.Data.List.Forall2

/-!
# Every line is answered

However the reader, the handler and the writer take turns, a session ends with one answer for every
line that is not blank, and what it answers is what the line asks for (`every_line_is_answered`).
-/

namespace CecGateway

namespace Serving

variable {s : Serving} {lines : List (List UInt8)}

/-! ## Runs of the steps -/

theorem start_sound {generic? : Option Generic} (hquiet : ∀ g, generic? = some g → g.Quiet)
    (waits : Bool) (input : List UInt8) :
    (start generic? waits input).Sound ((splitLines input).filter (!isBlankLine ·)) where
  requests_eq := rfl
  rejected_eq := rfl
  ledger :=
    ⟨.refl [], List.forall_mem_nil _, List.forall_mem_nil _, fun _ => ⟨by simp [start], rfl⟩⟩
  written_le := Nat.le_refl _
  idle _ := rfl
  attends := by
    intro t ht
    obtain ⟨g, hg, rfl⟩ := Option.map_eq_some_iff.mp ht
    have hquiet := hquiet g hg
    refine ⟨Traffic.balanced_of_quiet hquiet, rfl, hquiet.isOpen, rfl, ?_⟩
    simp [start, Traffic.underway, hquiet.pending]

/-- Every line has one answer, under its number, and all answers are written, each as one line; in
turn, if the reader waits. -/
structure AnswersAll (lines : List (List UInt8)) (s : Serving) : Prop where
  requests_eq : s.requests = lines
  rejected_eq : s.rejected = lines.countP isRejected
  output_eq : s.output = s.ledger.answers.map (·.2.render)
  one_line : ∀ text ∈ s.output, '\n' ∉ text.toList
  numbers : (s.ledger.answers.map (·.1)).Perm (List.range' 1 lines.length)
  answered : ∀ p ∈ s.ledger.answers, ∃ line, lines[p.1 - 1]? = some line ∧ p.2.Answers line
  offered_eq : ∀ t, s.traffic? = some t → t.offered = commandsOf lines
  in_turn : s.waits = true → List.Forall₂ Answer.Answers (s.ledger.answers.map (·.2)) lines

theorem answers_in_turn {answers : List (Nat × Answer)}
    (hnumbers : answers.map (·.1) = List.range' 1 lines.length)
    (hanswered : ∀ p ∈ answers, ∃ line, lines[p.1 - 1]? = some line ∧ p.2.Answers line) :
    List.Forall₂ Answer.Answers (answers.map (·.2)) lines := by
  have hlength : answers.length = lines.length := by
    simpa using congrArg List.length hnumbers
  rw [List.forall₂_iff_get]
  refine ⟨by simpa using hlength, fun i hi hline => ?_⟩
  simp only [List.length_map] at hi
  have hnumber : answers[i].1 = 1 + i := by
    have hget := congrArg (·[i]?) hnumbers
    simpa [List.getElem?_range', hi, hline] using hget
  obtain ⟨line, hget, hanswers⟩ := hanswered answers[i] (List.getElem_mem hi)
  obtain rfl : lines[i] = line := by
    simpa [hnumber, hline] using hget
  simpa using hanswers

theorem Sound.answersAll (hsound : s.Sound lines) (hfinished : s.isFinished = true) :
    s.AnswersAll lines := by
  obtain ⟨hrequests, hrejected, hledger, hwritten, hidle, hattends⟩ := hsound
  simp only [isFinished, Bool.and_eq_true, List.isEmpty_iff, decide_eq_true_eq] at hfinished
  obtain ⟨⟨hunread, hawaited⟩, hwritten⟩ := hfinished
  obtain rfl : s.requests = lines := by simpa [hunread] using hrequests
  obtain ⟨hnumbers, hanswered, -, hturn⟩ := hledger
  simp only [hawaited, List.map_nil, List.append_nil] at hnumbers hturn
  have houtput : s.output = s.ledger.answers.map (·.2.render) := by
    rw [output, hwritten, List.take_length]
  refine ⟨rfl, hrejected, houtput, fun text htext => ?_, hnumbers, hanswered, ?_,
    fun hwaits => ?_⟩
  · rw [houtput] at htext
    obtain ⟨answer, -, rfl⟩ := List.mem_map.mp htext
    exact answer.2.newline_not_mem_render
  · exact fun t ht => (hattends t ht).offered_eq
  · exact answers_in_turn (hturn hwaits).2 hanswered

end Serving

/-! ## Serving an input -/

/-- Every line has its answer, in the order of the lines; just the commands among them have been
offered to the handlers, if there are any, and completed. -/
structure Served.AnswersAll (hasHandlers : Bool) (lines : List (List UInt8)) (served : Served) :
    Prop where
  result_eq : served.result = .ok ⟨lines.length, lines.countP isRejected⟩
  written : ∃ answers : List Answer, served.written = answers.map (·.render) ∧
    List.Forall₂ Answer.Answers answers lines
  one_line : ∀ text ∈ served.written, '\n' ∉ text.toList
  completed_eq : (Event.completions served.events).map (·.1) = (commandsOf lines).map (·.ticket)
  offered_eq : Event.offers served.events =
    if hasHandlers then (commandsOf lines).map (·.payload) else []

theorem Output.foldl_write (texts : List String) {o : Output} (herror : o.error? = none) :
    (texts.foldl (Output.write {}) o).lines = o.lines ++ texts ∧
      (texts.foldl (Output.write {}) o).error? = none := by
  induction texts generalizing o with
  | nil => simp [herror]
  | cons text rest ih =>
      have hwrite : o.write {} text =
          { lines := o.lines ++ [text], bytes := o.bytes + text.utf8ByteSize + 1 } := by
        simp [Output.write, herror]
      rw [List.foldl_cons, hwrite]
      simpa using ih (o := { lines := o.lines ++ [text]
                             bytes := o.bytes + text.utf8ByteSize + 1 }) rfl

theorem serve_eq (hardware : Hardware) (c : Controller) (input : List UInt8) :
    let session := Session.readAll hardware c (splitLines input)
    serve hardware c ⟨input, none⟩ {} =
      ⟨session.controller, session.events, session.answers.map (·.render),
        .ok session.summary⟩ := by
  intro session
  obtain ⟨hlines, herror⟩ := Output.foldl_write (session.answers.map (·.render)) (o := {}) rfl
  have houtput : (session.output {}).lines = session.answers.map (·.render) := hlines
  have hfault : (session.output {}).error? = none := herror
  have hlines : Source.lines ⟨input, none⟩ = splitLines input := rfl
  simp only [serve, hlines]
  rw [houtput, hfault]

variable {c : Controller} {watches : Bool} {generic? : Option Generic}

/-- Serving has come to the same as a run of the steps, and the controller is at rest again. -/
structure Served.Matches (watches : Bool) (served : Served) (s : Serving) : Prop where
  isFinished : s.isFinished = true
  written_eq : served.written = s.output
  result_eq : served.result = .ok ⟨s.requests.length, s.rejected⟩
  completed_eq : (Event.completions served.events).map (·.1) =
    (commandsOf s.requests).map (·.ticket)
  offered_eq : Event.offers served.events =
    if watches || s.traffic?.isSome then (commandsOf s.requests).map (·.payload) else []
  rests : served.controller.Rests watches (s.traffic?.map (·.handler))

/-- Serving an input without faults is a run in which the reader waits. -/
theorem serve_matches (hrests : c.Rests watches generic?) (hardware : Hardware)
    (input : List UInt8) :
    ∃ steps, (serve hardware c ⟨input, none⟩ {}).Matches watches
      ((Serving.start generic? true input).run steps) := by
  have hstart := Session.matches_start hrests true input
  obtain ⟨read, hreads, hmatches, hunread, hwritten⟩ := hstart.foldl_read hardware rfl
  obtain ⟨hafter, -, hsummary, hanswers, hawaited, hcompleted, hoffered⟩ := hmatches
  have hle : read.written ≤ read.ledger.answers.length := by
    rw [hwritten]
    exact Nat.zero_le _
  obtain ⟨steps, hsteps⟩ := hreads.trans (.write hle)
  refine ⟨steps, ?_⟩
  rw [serve_eq, hsteps]
  refine ⟨?_, ?_, ?_, hcompleted, hoffered, hafter⟩
  · simp [Serving.isFinished, hunread, hawaited]
  · have hrender : read.ledger.answers.map (·.2.render) =
        (read.ledger.answers.map (·.2)).map (·.render) := by
      rw [List.map_map]
      rfl
    rw [Serving.output, List.take_length, hrender, ← hanswers]
    rfl
  · rw [← hsummary]
    rfl

theorem Served.Matches.answersAll {served : Served} {s : Serving} {lines : List (List UInt8)}
    (h : served.Matches watches s) (hsound : s.Sound lines) (hwaits : s.waits = true) :
    served.AnswersAll (watches || s.traffic?.isSome) lines := by
  obtain ⟨hrequests, hrejected, houtput, hline, -, -, -, hturn⟩ :=
    hsound.answersAll h.isFinished
  have hwritten : served.written = (s.ledger.answers.map (·.2)).map (·.render) := by
    rw [h.written_eq, houtput, List.map_map]
    rfl
  refine ⟨?_, ⟨_, hwritten, hturn hwaits⟩, ?_, ?_, ?_⟩
  · rw [h.result_eq, hrequests, hrejected]
  · rw [h.written_eq]
    exact hline
  · rw [h.completed_eq, hrequests]
  · rw [h.offered_eq, hrequests]

theorem Daemon.registered_rests (defaultAdapter : String) :
    (Daemon.registered defaultAdapter).Rests true (some { defaultAdapter }) where
  holds := @Controller.Holds.registered _ _ _ (some { defaultAdapter }) rfl rfl rfl
  quiet := by
    intro g hg
    obtain rfl := Option.some_inj.mp hg
    exact ⟨rfl, rfl, rfl, by simp⟩

/-- A controller with the watcher, the generic handler, both or none answers every line of any
input: in every run of the steps, which comes to an end, and in serving over any hardware. -/
theorem every_line_is_answered (hrests : c.Rests watches generic?) (input : List UInt8) :
    let lines := splitLines input
    let requests := lines.filter (!isBlankLine ·)
    (∀ cut, InLines input cut ↔ cut = lines) ∧
      (∀ waits steps,
        let s := (Serving.start generic? waits input).run steps
        (s.isFinished = true → s.AnswersAll requests) ∧
          (s.isFinished = false → ∃ step next, s.step step = some next) ∧
          ∀ step next, s.step step = some next → next.workLeft < s.workLeft) ∧
      ∀ hardware,
        (serve hardware c ⟨input, none⟩ {}).AnswersAll (watches || generic?.isSome) requests ∧
          ∃ steps, (serve hardware c ⟨input, none⟩ {}).Matches watches
            ((Serving.start generic? true input).run steps) := by
  intro lines requests
  have hsound (waits : Bool) (steps : List Serving.Step) :
      ((Serving.start generic? waits input).run steps).Sound requests :=
    (Serving.start_sound hrests.quiet waits input).run steps
  refine ⟨fun cut => inLines_iff, fun waits steps => ⟨?_, ?_, ?_⟩, fun hardware => ?_⟩
  · exact (hsound waits steps).answersAll
  · exact Serving.exists_step (hsound waits steps)
  · exact fun step next hstep => (Serving.effect_of_step hstep).workLeft_lt
  · obtain ⟨steps, hmatches⟩ := serve_matches hrests hardware input
    obtain ⟨hwaits, htraffic⟩ := Serving.run_frame (Serving.start generic? true input) steps
    have hanswers := hmatches.answersAll (hsound true steps) hwaits
    rw [htraffic, Serving.start, Option.isSome_map] at hanswers
    exact ⟨hanswers, steps, hmatches⟩

/-- A command, a blank line, and at the end half a command. -/
def raggedInput : List UInt8 :=
  "[\"listAdapters\"]\n \t\n[\"scan\"".toList.map (·.toNat.toUInt8)

theorem daemon_answers_raggedInput :
    (Daemon.registered "RPI").Rests true (some { defaultAdapter := "RPI" }) ∧
      ∀ hardware, (serve hardware (Daemon.registered "RPI") ⟨raggedInput, none⟩ {}).result =
        .ok ⟨2, 1⟩ := by
  have hrests := Daemon.registered_rests "RPI"
  refine ⟨hrests, fun hardware => ?_⟩
  obtain ⟨-, -, hserve⟩ := every_line_is_answered hrests raggedInput
  have hlength : ((splitLines raggedInput).filter (!isBlankLine ·)).length = 2 := by decide
  have hrejected : ((splitLines raggedInput).filter (!isBlankLine ·)).countP isRejected = 1 := by
    decide +kernel
  rw [(hserve hardware).1.result_eq, hlength, hrejected]

/-! ## The sessions of a daemon -/

/-- Whatever is read and however writing ends, the handlers come to rest. -/
theorem serve_rests (hrests : c.Rests watches generic?) (hardware : Hardware) (source : Source)
    (sink : Sink) :
    ∃ after?, (serve hardware c source sink).controller.Rests watches after? ∧
      after?.isSome = generic?.isSome := by
  let s : Serving := { Serving.start generic? true [] with unread := source.lines }
  obtain ⟨hstart, hcallers, hsummary, hanswers, hawaited, hcompleted, hoffered⟩ :=
    Session.matches_start hrests true []
  have hmatches : Session.Matches watches { controller := c } s :=
    ⟨hstart, hcallers, hsummary, hanswers, hawaited, hcompleted, hoffered⟩
  obtain ⟨next, ⟨steps, rfl⟩, hnext, -⟩ := hmatches.foldl_read hardware rfl
  refine ⟨_, hnext.rests, ?_⟩
  rw [Option.isSome_map, (Serving.run_frame s steps).2]
  exact Option.isSome_map

namespace Daemon

theorem start_rests {s : Surroundings} {d : Daemon} {traces : List Trace}
    (hstart : start s = (.ok d, traces)) : ∃ g, d.controller.Rests true (some g) := by
  unfold start at hstart
  split at hstart
  · simp at hstart
  · rename_i config _
    simp only [Prod.mk.injEq, Except.ok.injEq] at hstart
    obtain ⟨rfl, -⟩ := hstart
    have hrests := (registered_rests config.defaultAdapter).setUp (s.hardware config)
    exact ⟨_, hrests⟩

/-- Between its sessions, whatever they read and however they end, a daemon is at rest. -/
theorem rests_between_sessions {s : Surroundings} {d : Daemon} {traces : List Trace}
    (hstart : start s = (.ok d, traces)) (sessions : List (Source × Sink)) :
    ∃ g, (sessions.foldl (fun d (source, sink) => (d.serve source sink).1) d).controller.Rests true
      (some g) := by
  obtain ⟨g, hrests⟩ := start_rests hstart
  clear hstart
  induction sessions generalizing d g with
  | nil => exact ⟨g, hrests⟩
  | cons session rest ih =>
      obtain ⟨after?, hafter, hsome⟩ := CecGateway.serve_rests hrests d.hardware session.1 session.2
      obtain ⟨after, rfl⟩ := Option.isSome_iff_exists.mp hsome
      exact ih after hafter

end Daemon

end CecGateway
