import CecGateway.Proofs.Serving.Answered
import CecGateway.Proofs.Serving.Strokes

/-!
# Sessions whose output fails

The reader of a session hands answers to a writer and goes on; when the writer has failed, it reads
on and answers come to nothing. However the two take turns and wherever the writing fails, the
session is the one that a perfect output would have seen, and what is written is the beginning of
what that output would have got (`write_faults_leave_the_session`).
-/

namespace CecGateway

/-- What a session returns: an aborted writer comes before a read error, and that before any other
write error. -/
def Summary.conclude (summary : Summary) (writeError? : Option SessionError)
    (readError? : Option String) : Except SessionError Summary :=
  match writeError?, readError? with
  | some .writerAborted, _ => .error .writerAborted
  | _, some reason => .error (.io reason)
  | some error, none => .error error
  | none, none => .ok summary

section

variable (summary : Summary) {writeError? : Option SessionError} {readError? : Option String}

theorem Summary.conclude_of_abort (h : writeError? = some .writerAborted) :
    summary.conclude writeError? readError? = .error .writerAborted := by
  rw [h]
  rfl

theorem Summary.conclude_of_read_error {reason : String} (hread : readError? = some reason)
    (hwrite : writeError? ≠ some .writerAborted) :
    summary.conclude writeError? readError? = .error (.io reason) := by
  rw [hread]
  rcases writeError? with _ | (_ | _ | _) <;> first
    | rfl
    | contradiction

theorem Summary.conclude_of_write_error {error : SessionError} (hread : readError? = none)
    (hwrite : writeError? = some error) :
    summary.conclude writeError? readError? = .error error := by
  rw [hread, hwrite]
  cases error <;> rfl

end

theorem serve_result (hardware : Hardware) (c : Controller) (source : Source) (sink : Sink) :
    let session := Session.readAll hardware c source.lines
    (serve hardware c source sink).result =
      session.summary.conclude (session.output sink).error? source.error? := rfl

/-- A reader and a writer at work side by side. -/
structure Desk where
  session : Session
  unread : List (List UInt8)
  /-- What the writer still has to write. -/
  ahead : List Stroke := []
  writing : Writing := {}

namespace Desk

inductive Turn
  | reader
  | writer

def start (c : Controller) (source : Source) : Desk := ⟨{ controller := c }, source.lines, [], {}⟩

section

variable (hardware : Hardware) (sink : Sink) (cut : Cut)

/-- Reads a line. Its answers are lost if the writer has failed. -/
def take (d : Desk) (line : List UInt8) : Desk :=
  if isBlankLine line then d
  else
    let x : Exchange := ⟨d.session, line⟩
    let strokes := (x.answers hardware).flatMap (cut.strokes ·.render)
    { d with
      session := x.after hardware
      ahead := if d.writing.error?.isSome then [] else d.ahead ++ strokes }

/-- Makes a stroke. One that is refused is the last. -/
def make (d : Desk) (stroke : Stroke) (rest : List Stroke) : Desk :=
  let writing := d.writing.write sink stroke
  { d with writing, ahead := if writing.error?.isSome then [] else rest }

def step (d : Desk) : Turn → Option Desk
  | .reader =>
    match d.unread with
    | [] => none
    | line :: unread => some ({ d with unread }.take hardware cut line)
  | .writer =>
    match d.ahead with
    | [] => none
    | stroke :: rest => some (d.make sink stroke rest)

/-- Takes turns; one at which there is nothing to do is left out. -/
def run (d : Desk) (turns : List Turn) : Desk :=
  turns.foldl (fun d turn => (d.step hardware sink cut turn).getD d) d

end

def isFinished (d : Desk) : Bool := d.unread.isEmpty && d.ahead.isEmpty

/-- Lines first, and then strokes: a line may bring any number of them. -/
def workLeft (d : Desk) : Nat × Nat := (d.unread.length, d.ahead.length)

def served (source : Source) (d : Desk) : Served where
  controller := d.session.controller
  events := d.session.events
  written := d.writing.lines
  result := d.session.summary.conclude d.writing.error? source.error?

variable {hardware : Hardware} {sink : Sink} {cut : Cut} {c : Controller} {source : Source}
  {d next : Desk} {turn : Turn}

theorem step_cases (h : d.step hardware sink cut turn = some next) :
    (∃ line unread, d.unread = line :: unread ∧
      next = { d with unread }.take hardware cut line) ∨
    ∃ stroke rest, d.ahead = stroke :: rest ∧ next = d.make sink stroke rest := by
  cases turn with
  | reader =>
      cases hunread : d.unread with
      | nil => simp [step, hunread] at h
      | cons line unread => exact .inl ⟨line, unread, rfl, by simpa [step, hunread] using h.symm⟩
  | writer =>
      cases hahead : d.ahead with
      | nil => simp [step, hahead] at h
      | cons stroke rest => exact .inr ⟨stroke, rest, rfl, by simpa [step, hahead] using h.symm⟩

theorem workLeft_lt (h : d.step hardware sink cut turn = some next) :
    Prod.Lex (· < ·) (· < ·) next.workLeft d.workLeft := by
  obtain ⟨line, unread, hunread, rfl⟩ | ⟨stroke, rest, hahead, rfl⟩ := step_cases h
  · have hleft : ({ d with unread }.take hardware cut line).unread = unread := by
      unfold take
      split_ifs <;> rfl
    refine Prod.Lex.left _ _ ?_
    rw [hleft, hunread]
    exact Nat.lt_succ_self _
  · refine Prod.Lex.right _ ?_
    have hshorter : (d.make sink stroke rest).ahead.length ≤ rest.length := by
      unfold make
      dsimp only
      split_ifs
      · exact Nat.zero_le _
      · exact Nat.le_refl _
    rw [hahead]
    exact Nat.lt_succ_of_le hshorter

theorem exists_step (hfinished : d.isFinished = false) :
    ∃ turn next, d.step hardware sink cut turn = some next := by
  cases hunread : d.unread with
  | cons line unread => exact ⟨.reader, _, by rw [step, hunread]⟩
  | nil =>
      cases hahead : d.ahead with
      | nil => simp [isFinished, hunread, hahead] at hfinished
      | cons stroke rest => exact ⟨.writer, _, by rw [step, hahead]⟩

/-- Reader and writer are done in the end, if they go on. -/
theorem exists_finished (hardware : Hardware) (sink : Sink) (cut : Cut) (d : Desk) :
    ∃ turns, (d.run hardware sink cut turns).isFinished = true := by
  cases hfinished : d.isFinished with
  | true => exact ⟨[], hfinished⟩
  | false =>
      obtain ⟨turn, next, hstep⟩ : ∃ turn next, d.step hardware sink cut turn = some next :=
        exists_step hfinished
      obtain ⟨turns, hturns⟩ := exists_finished hardware sink cut next
      exact ⟨turn :: turns, by simpa [run, hstep] using hturns⟩
termination_by d.workLeft
decreasing_by exact workLeft_lt hstep

/-! ## Every way to take turns -/

def strokes (cut : Cut) (answers : List Answer) : List Stroke :=
  (answers.map (·.render)).flatMap cut.strokes

/-- The reader is on its way through the lines, and the strokes of the answers so far have been
made, or will be, or are lost to a writer that has failed. -/
structure Tracks (hardware : Hardware) (sink : Sink) (cut : Cut) (c : Controller)
    (source : Source) (d : Desk) : Prop where
  session_eq : (d.unread.filter (!isBlankLine ·)).foldl (Session.read hardware) d.session =
    Session.readAll hardware c source.lines
  writing_eq : d.ahead.foldl (Writing.write sink) d.writing =
    (strokes cut d.session.answers).foldl (Writing.write sink) {}

theorem tracks_start (hardware : Hardware) (sink : Sink) (cut : Cut) (c : Controller)
    (source : Source) : (start c source).Tracks hardware sink cut c source := ⟨rfl, rfl⟩

theorem Tracks.take (h : d.Tracks hardware sink cut c source) {line : List UInt8}
    {unread : List (List UInt8)} (hunread : d.unread = line :: unread) :
    Tracks hardware sink cut c source ({ d with unread }.take hardware cut line) := by
  obtain ⟨hsession, hwriting⟩ := h
  rw [hunread] at hsession
  cases hblank : isBlankLine line with
  | true =>
      rw [Desk.take, if_pos hblank]
      exact ⟨by simpa [hblank] using hsession, hwriting⟩
  | false =>
      rw [Desk.take, if_neg (by simp [hblank])]
      refine ⟨by simpa [hblank, Exchange.after] using hsession, ?_⟩
      have hanswers := Exchange.answers_after hardware ⟨d.session, line⟩
      dsimp only at hanswers ⊢
      rw [hanswers, strokes, List.map_append, List.flatMap_append, List.foldl_append]
      rw [strokes] at hwriting
      rw [← hwriting]
      -- a writer that has failed makes nothing of the new strokes, so it is the same to lose them
      cases herror : d.writing.error? with
      | some error =>
          have hfailed : d.writing.error?.isSome := by simp [herror]
          simp only [Writing.foldl_write_of_error hfailed]
      | none => simp [List.flatMap_map]

theorem Tracks.make (h : d.Tracks hardware sink cut c source) {stroke : Stroke}
    {rest : List Stroke} (hahead : d.ahead = stroke :: rest) :
    Tracks hardware sink cut c source (d.make sink stroke rest) := by
  obtain ⟨hsession, hwriting⟩ := h
  refine ⟨hsession, ?_⟩
  rw [hahead, List.foldl_cons] at hwriting
  cases herror : (d.writing.write sink stroke).error? with
  | some error =>
      rw [Writing.foldl_write_of_error (by simp [herror])] at hwriting
      simpa [Desk.make, herror] using hwriting
  | none => simpa [Desk.make, herror] using hwriting

theorem run_invariant {P : Desk → Prop} (hstart : P d)
    (hstep : ∀ d turn next, P d → d.step hardware sink cut turn = some next → P next)
    (turns : List Turn) : P (d.run hardware sink cut turns) := by
  induction turns generalizing d with
  | nil => exact hstart
  | cons turn rest ih =>
      cases hnext : d.step hardware sink cut turn with
      | none => simpa [run, hnext] using ih hstart
      | some next => simpa [run, hnext] using ih (hstep d turn next hstart hnext)

theorem Tracks.run (h : d.Tracks hardware sink cut c source) (turns : List Turn) :
    (d.run hardware sink cut turns).Tracks hardware sink cut c source := by
  refine run_invariant h (fun d turn next htracks hstep => ?_) turns
  obtain ⟨line, unread, hunread, rfl⟩ | ⟨stroke, rest, hahead, rfl⟩ := step_cases hstep
  · exact htracks.take hunread
  · exact htracks.make hahead

theorem writing_run_of_error (herror : d.writing.error?.isSome) (turns : List Turn) :
    (d.run hardware sink cut turns).writing = d.writing := by
  refine run_invariant (P := fun next => next.writing = d.writing) rfl
    (fun middle turn next hsame hstep => ?_) turns
  obtain ⟨line, unread, -, rfl⟩ | ⟨stroke, rest, -, rfl⟩ := step_cases hstep
  · unfold take
    split_ifs <;> exact hsame
  · have hfailed : middle.writing.error?.isSome := by rwa [hsame]
    exact (Writing.write_of_error hfailed stroke).trans hsame

/-- What has been written so far is part of what will have been written in the end. -/
theorem Tracks.done_prefix (h : d.Tracks hardware sink cut c source) :
    d.writing.done <+: ((strokes cut (Session.readAll hardware c source.lines).answers).foldl
      (Writing.write sink) {}).done := by
  obtain ⟨hsession, hwriting⟩ := h
  have hanswers : d.session.answers <+: (Session.readAll hardware c source.lines).answers := by
    rw [← hsession, Session.answers_foldl_read]
    exact List.prefix_append _ _
  obtain ⟨later, hlater⟩ := hanswers
  have hahead := Writing.done_prefix sink d.writing d.ahead
  rw [hwriting] at hahead
  refine hahead.trans ?_
  rw [← hlater, strokes, strokes, List.map_append, List.flatMap_append, List.foldl_append]
  exact Writing.done_prefix sink _ _

theorem Tracks.finished (h : d.Tracks hardware sink cut c source) (hfinished : d.isFinished = true) :
    d.session = Session.readAll hardware c source.lines ∧
      d.writing = (strokes cut (Session.readAll hardware c source.lines).answers).foldl
        (Writing.write sink) {} := by
  simp only [isFinished, Bool.and_eq_true, List.isEmpty_iff] at hfinished
  obtain ⟨hunread, hahead⟩ := hfinished
  obtain ⟨hsession, hwriting⟩ := h
  rw [hunread] at hsession
  rw [hahead] at hwriting
  have hsame : d.session = Session.readAll hardware c source.lines := hsession
  exact ⟨hsame, by rw [← hsame]; exact hwriting⟩

theorem served_eq_serve (hsession : d.session = Session.readAll hardware c source.lines)
    (hwriting : d.writing = (strokes cut (Session.readAll hardware c source.lines).answers).foldl
      (Writing.write sink) {}) :
    d.served source = serve hardware c source sink := by
  have hagrees := Writing.agrees_foldl sink cut
    ((Session.readAll hardware c source.lines).answers.map (·.render))
  rw [← strokes, ← hwriting] at hagrees
  have houtput : (Session.readAll hardware c source.lines).output sink =
      ((Session.readAll hardware c source.lines).answers.map (·.render)).foldl
        (Output.write sink) {} := rfl
  rw [← houtput] at hagrees
  rw [served, hsession, hagrees.lines_eq, hagrees.error_eq]
  rfl

end Desk

/-! ## How a session ends -/

/-- The session is as it would be without faults; `writing` is what its writer does. -/
structure Served.Survives (source : Source) (sink : Sink) (cut : Cut) (writing : Writing)
    (served perfect : Served) : Prop where
  controller_eq : served.controller = perfect.controller
  events_eq : served.events = perfect.events
  /-- No stroke follows the first that is refused. -/
  ends : sink.Ends (perfect.written.flatMap cut.strokes) writing
  written_eq : served.written = writing.lines
  written_prefix : served.written <+: perfect.written
  one_line : ∀ text ∈ perfect.written, '\n' ∉ text.toList
  of_abort : sink.aborts = true → perfect.written ≠ [] → served.result = .error .writerAborted
  of_read_error : sink.aborts = false ∨ perfect.written = [] →
    ∀ reason, source.error? = some reason → served.result = .error (.io reason)
  of_write_error : source.error? = none →
    ∀ error, writing.error? = some error → served.result = .error error
  of_no_error : source.error? = none → writing.error? = none →
    (∃ summary, perfect.result = .ok summary ∧ served.result = .ok summary) ∧
      served.written = perfect.written

theorem serve_survives (hardware : Hardware) (c : Controller) (source : Source) (sink : Sink)
    (cut : Cut) :
    let perfect := serve hardware c source {}
    (serve hardware c source sink).Survives source sink cut
      ((perfect.written.flatMap cut.strokes).foldl (Writing.write sink) {}) perfect := by
  intro perfect
  let session := Session.readAll hardware c source.lines
  have hperfect := Output.foldl_write (session.answers.map (·.render)) (o := {}) rfl
  have hwritten : perfect.written = session.answers.map (·.render) := hperfect.1
  have hfault : (session.output {}).error? = none := hperfect.2
  have hagrees := Writing.agrees_foldl sink cut perfect.written
  have haborted := Writing.error_eq_writerAborted_iff sink cut perfect.written
  have hends := Writing.ends_foldl sink (perfect.written.flatMap cut.strokes)
  generalize (perfect.written.flatMap cut.strokes).foldl (Writing.write sink) {} = writing at *
  have houtput : session.output sink = perfect.written.foldl (Output.write sink) {} := by
    rw [hwritten]
    rfl
  have hlines : (serve hardware c source sink).written = writing.lines :=
    (congrArg Output.lines houtput).trans hagrees.lines_eq.symm
  have hresult : (serve hardware c source sink).result =
      session.summary.conclude writing.error? source.error? := by
    rw [hagrees.error_eq, ← houtput]
    exact serve_result hardware c source sink
  refine ⟨rfl, rfl, hends, hlines, ?_, ?_, fun haborts hsome => ?_, fun hwrites reason hread => ?_,
    fun hread error herror => ?_, fun hread herror => ?_⟩
  · rw [hwritten]
    exact Output.lines_foldl_write_prefix sink _ {}
  · rw [hwritten]
    rintro text htext
    obtain ⟨answer, -, rfl⟩ := List.mem_map.mp htext
    exact answer.newline_not_mem_render
  · exact hresult.trans (Summary.conclude_of_abort _ (haborted.mpr ⟨haborts, hsome⟩))
  · refine hresult.trans (Summary.conclude_of_read_error _ hread fun habort => ?_)
    obtain ⟨haborts, hsome⟩ := haborted.mp habort
    rcases hwrites with hgoes | hnone
    · simp [hgoes] at haborts
    · exact hsome hnone
  · exact hresult.trans (Summary.conclude_of_write_error _ hread herror)
  · have hwhole : writing.lines = perfect.written := by
      cases hends with
      | whole htakes =>
          have hall := cut.lines_strokes perfect.written []
          rw [List.append_nil] at hall
          exact hall.trans (List.append_nil _)
      | refused => contradiction
    refine ⟨⟨session.summary, ?_, ?_⟩, hlines.trans hwhole⟩
    · refine (serve_result hardware c source {}).trans ?_
      rw [hfault, hread]
      rfl
    · rw [hresult, herror, hread]
      rfl

/-- Wherever writing fails, and however the reader and the writer take turns, the input is read and
dispatched as it would be if writing did not fail. What is written is what would be written up to
the first failure, and of its failures the session returns an aborted writer before a read error,
and that before any other write error. -/
theorem write_faults_leave_the_session (hardware : Hardware) (c : Controller) (source : Source)
    (sink : Sink) (cut : Cut) :
    let perfect := serve hardware c source {}
    let served := serve hardware c source sink
    let writing := (perfect.written.flatMap cut.strokes).foldl (Writing.write sink) {}
    served.Survives source sink cut writing perfect ∧
      ∀ turns,
        let d := (Desk.start c source).run hardware sink cut turns
        d.writing.done <+: writing.done ∧ d.writing.lines <+: served.written ∧
          (d.writing.error?.isSome →
            ∀ later, (d.run hardware sink cut later).writing = d.writing) ∧
          (d.isFinished = true →
            d.session = Session.readAll hardware c source.lines ∧ d.writing = writing ∧
              d.served source = served) ∧
          (d.isFinished = false → ∃ turn next, d.step hardware sink cut turn = some next) ∧
          ∀ turn next, d.step hardware sink cut turn = some next →
            Prod.Lex (· < ·) (· < ·) next.workLeft d.workLeft := by
  intro perfect served writing
  have hwritten : perfect.written =
      (Session.readAll hardware c source.lines).answers.map (·.render) :=
    (Output.foldl_write _ (o := {}) rfl).1
  have hwriting : writing = (Desk.strokes cut
      (Session.readAll hardware c source.lines).answers).foldl (Writing.write sink) {} := by
    rw [Desk.strokes, ← hwritten]
  have hsurvives : served.Survives source sink cut writing perfect :=
    serve_survives hardware c source sink cut
  refine ⟨hsurvives, fun turns => ?_⟩
  have htracks := (Desk.tracks_start hardware sink cut c source).run turns
  have hdone := htracks.done_prefix
  rw [← hwriting] at hdone
  refine ⟨hdone, ?_, fun herror later => Desk.writing_run_of_error herror later,
    fun hfinished => ?_, Desk.exists_step, fun turn next => Desk.workLeft_lt⟩
  · rw [hsurvives.written_eq]
    exact Writing.lines_prefix hdone
  · obtain ⟨hsession, hsame⟩ := htracks.finished hfinished
    exact ⟨hsession, hsame.trans hwriting.symm, Desk.served_eq_serve hsession hsame⟩

-- The output is full inside the text of the second answer, and just before its newline.
example :
    let hardware := Hardware.scripted (.ok ()) fun _ => .ok (.lines [])
    let input := "[\"listAdapters\"]\n[\"scan\"".toList.map (·.toNat.toUInt8)
    let served (limit : Nat) := serve hardware (Daemon.registered "RPI") ⟨input, none⟩
      { limit? := some (limit, "disk full") }
    (served 60).result = .error (.unserialized "disk full") ∧
      (served 137).result = .error (.io "disk full") ∧
      (served 137).written = ["\x7b\"returnValue\":true,\"cecAdapters\":[]\x7d"] := by
  decide +kernel

end CecGateway
