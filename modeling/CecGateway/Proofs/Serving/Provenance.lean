import CecGateway.Proofs.Serving.Answered

/-!
# Where the codes come from

A session that waits for its answers is a row of exchanges, and the hardware is called in none of
them but for the line that is read. So the code of an answer tells how far its request has come:
code 1, that the line holds no command; codes 2 to 5, that the hardware was not called; code 6, that
it was, or could not be opened; and success, that it was called once and answered with lines.
-/

namespace CecGateway

/-! ## What an answer says -/

theorem Answer.member?_returnValue (a : Answer) :
    (Json.obj a.members).member? "returnValue" = some (.bool a.outcome.isOk) := by
  obtain ⟨id, outcome⟩ := a
  cases id <;> cases outcome <;> rfl

theorem Failure.code_of_objection {why : Failure}
    (h : why ∈ [.invalidAdapter, .invalidDestination, .invalidCommand, .invalidParameters]) :
    why.code ≠ 1 ∧ why.code ≠ 6 ∧ why.code ≠ 12 := by
  revert why
  decide

namespace Answer

def HasCode (a : Answer) (code : Int) : Prop :=
  (Json.obj a.members).member? "errorCode" = some (.int code)

def Succeeds (a : Answer) : Prop :=
  (Json.obj a.members).member? "returnValue" = some (.bool true)

variable {a : Answer} {why : Failure} {data : Data} {code : Int}

theorem hasCode_iff (h : a.outcome = .error why) : a.HasCode code ↔ code = why.code := by
  rw [HasCode, member?_errorCode, h]
  simp only [Option.some_inj, Json.int.injEq]
  exact eq_comm

theorem not_hasCode (h : a.outcome = .ok data) : ¬a.HasCode code := by
  simp [HasCode, member?_errorCode, h]

theorem succeeds_iff : a.Succeeds ↔ ∃ data, a.outcome = .ok data := by
  rw [Succeeds, member?_returnValue]
  cases a.outcome <;> simp [Except.isOk, Except.toBool]

end Answer

/-! ## The controller between two commands -/

namespace Controller

/-- At rest, and the worker waits, or will when the handlers are built. -/
structure Ready (c : Controller) (hardware : Hardware) (watches : Bool) (g : Generic) : Prop where
  rests : c.Rests watches (some g)
  worker : (c.awaken hardware g).1.queue.worker = .idle hardware.fault?

variable {c : Controller} {hardware : Hardware} {watches : Bool} {g : Generic}

theorem isSetUp_dispatch (hardware : Hardware) (c : Controller) (command : Command) :
    (c.dispatch hardware command).1.isSetUp = true := by
  rw [dispatch_eq]
  rfl

theorem setUp_of_isSetUp (h : c.isSetUp = true) : (c.setUp hardware).2.2 = [] := by
  obtain ⟨chain, hchain⟩ := Option.isSome_iff_exists.mp h
  rw [setUp_of_chain hchain]

theorem exists_events_dispatch (hardware : Hardware) (c : Controller) (command : Command) :
    ∃ later, (c.dispatch hardware command).2.2 = (c.setUp hardware).2.2 ++ later :=
  ⟨_, by rw [dispatch_eq]⟩

theorem Ready.dispatch_ready (hready : c.Ready hardware watches g) (command : Command) :
    (c.dispatch hardware command).1.Ready hardware watches
      (((c.awaken hardware g).1.handle command).1.settle hardware false).1 := by
  obtain ⟨⟨hholds, hquiet⟩, hworker⟩ := hready
  have hquiet := hquiet g rfl
  obtain ⟨hawake, -⟩ := quiet_awaken hquiet hardware c
  obtain ⟨hafter, -⟩ := hholds.dispatch_generic hquiet hardware command
  obtain ⟨hwaits, -⟩ := hawake.course hworker command
  obtain ⟨hrests, -⟩ := hawake.handle hardware command
  refine ⟨⟨hafter, ?_⟩, ?_⟩
  · intro after hg
    rwa [← Option.some_inj.mp hg]
  · rw [awaken, if_pos (isSetUp_dispatch hardware c command)]
    exact hwaits

theorem Ready.dispatch (hready : c.Ready hardware watches g) (command : Command) :
    ∃ after later result,
      (c.dispatch hardware command).1.Ready hardware watches after ∧
      (c.dispatch hardware command).2.2 = (c.setUp hardware).2.2 ++ later ∧
      Event.completions (c.dispatch hardware command).2.2 = [(command.ticket, result)] ∧
      (c.awaken hardware g).1.Course hardware command (Event.calls later) result := by
  have hnext := hready.dispatch_ready command
  obtain ⟨⟨hholds, hquiet⟩, hworker⟩ := hready
  have hquiet := hquiet g rfl
  obtain ⟨hawake, -⟩ := quiet_awaken hquiet hardware c
  obtain ⟨-, hcompletions, -, later, hevents, hcalls⟩ :=
    hholds.dispatch_generic hquiet hardware command
  obtain ⟨-, result, hcompleted, hcourse⟩ := hawake.course hworker command
  refine ⟨_, later, result, hnext, hevents, hcompletions.trans hcompleted, ?_⟩
  rwa [hcalls]

/-- Building the handlers makes no difference. -/
theorem Ready.setUp (hready : c.Ready hardware watches g) :
    (c.setUp hardware).1.Rests watches (some (c.awaken hardware g).1) :=
  hready.rests.setUp hardware

end Controller

theorem Daemon.registered_ready (defaultAdapter : String) (hardware : Hardware) :
    (Daemon.registered defaultAdapter).Ready hardware true { defaultAdapter } where
  rests := Daemon.registered_rests defaultAdapter
  worker := by
    have hquiet : Generic.Quiet { defaultAdapter } := ⟨rfl, rfl, rfl, by simp⟩
    exact congrArg (·.1.queue.worker) (hquiet.settle_starting rfl hardware)

/-! ## Exchanges -/

/-- A line that is read, and the session that reads it. -/
structure Exchange where
  before : Session
  line : List UInt8

namespace Exchange

section

variable (hardware : Hardware) (x : Exchange)

def after : Session := x.before.read hardware x.line

def answers : List Answer := (x.after hardware).answers.drop x.before.answers.length

/-- What is seen while the line is answered; building the handlers is no part of it. -/
def events : List Event :=
  (x.after hardware).events.drop
    (x.before.events ++ (x.before.controller.setUp hardware).2.2).length

def calls : List Call := Event.calls (x.events hardware)

end

variable {hardware : Hardware} {x : Exchange} {watches : Bool} {g : Generic}

theorem events_of_rejected {id : Option Json} (hline : Reading.ofLine x.line = .rejected id) :
    x.events hardware = [] := by
  rw [events, after, Session.read_rejected hardware x.before hline]
  exact List.drop_eq_nil_of_le (by simp)

/-- All that can come of a line that is read while nothing is under way. -/
inductive Settled (hardware : Hardware) (g : Generic) (x : Exchange) : Prop
  | rejected {id : Option Json} (hline : Reading.ofLine x.line = .rejected id)
      (hanswers : x.answers hardware = [.badInput id]) (hcalls : x.calls hardware = [])
  | completed {id : Option Json} {payload : Payload} {ticket : Nat} {result : Result}
      (hline : Reading.ofLine x.line = .command id payload)
      (hanswers : x.answers hardware = [.ofResult id result])
      (hcourse : g.Course hardware ⟨ticket, payload⟩ (x.calls hardware) result)

theorem settled (hready : x.before.controller.Ready hardware watches g) :
    x.Settled hardware (x.before.controller.awaken hardware g).1 := by
  cases hline : Reading.ofLine x.line with
  | rejected id =>
      have hafter : x.after hardware = _ := Session.read_rejected hardware x.before hline
      apply Settled.rejected hline
      · simp [answers, hafter]
      · rw [calls, events_of_rejected hline, Event.calls_nil]
  | command id payload =>
      have hafter : x.after hardware = _ := Session.read_command hardware x.before hline
      obtain ⟨after, later, result, -, hevents, hcompletions, hcourse⟩ :=
        hready.dispatch ⟨x.before.summary.requests + 1, payload⟩
      have hcalls : x.calls hardware = Event.calls later := by
        simp [calls, events, hafter, hevents, ← List.append_assoc]
      have hanswers : x.answers hardware = [.ofResult id result] := by
        simp [answers, hafter, answersTo_eq, hcompletions]
      apply Settled.completed hline hanswers
      rwa [hcalls]

/-- What the answer to a line tells of it. -/
structure HasProvenance (hardware : Hardware) (g : Generic) (x : Exchange) (a : Answer) : Prop where
  answers_eq : x.answers hardware = [a]
  hasCode_one_iff : a.HasCode 1 ↔ isRejected x.line = true
  not_hasCode_twelve : ¬a.HasCode 12
  calls_eq_nil : ∀ code ∈ [1, 2, 3, 4, 5], a.HasCode code → x.calls hardware = []
  of_hasCode_six : a.HasCode 6 → ∃ id payload, Reading.ofLine x.line = .command id payload ∧
    g.validate payload = .ok () ∧
    ((∃ native, payload.native? g.defaultAdapter = some native ∧
        x.calls hardware = [.executed native]) ∨
      (∃ fault, hardware.opening = .error fault) ∧ x.calls hardware = [])
  of_succeeds : a.Succeeds → ∃ id payload native lines,
    Reading.ofLine x.line = .command id payload ∧
    payload.native? g.defaultAdapter = some native ∧ x.calls hardware = [.executed native] ∧
    hardware.answer g.queue.executed native = .ok (.lines lines)

theorem Settled.hasProvenance (h : x.Settled hardware g) (hlimits : hardware.KeepsLimits) :
    ∃ a, x.HasProvenance hardware g a := by
  cases h with
  | @rejected id hline hanswers hcalls =>
      obtain ⟨-, hrejected⟩ := reading_of_rejected hline
      have hcode (code : Int) : (Answer.badInput id).HasCode code ↔
          code = Failure.badInput.code := Answer.hasCode_iff rfl
      refine ⟨_, hanswers, ?_, ?_, ?_, ?_, ?_⟩
      · simp [hcode, hrejected, Failure.code]
      · simp [hcode, Failure.code]
      · intros
        exact hcalls
      · simp [hcode, Failure.code]
      · simp [Answer.succeeds_iff, Answer.badInput, Answer.failure]
  | @completed id payload ticket result hline hanswers hcourse =>
      obtain ⟨-, hrejected⟩ := reading_of_command hline
      cases houtcome : result.outcome with
      | ok data =>
          have hcode (code : Int) : ¬(Answer.ofResult id result).HasCode code :=
            Answer.not_hasCode houtcome
          obtain ⟨native, lines, hnative, hcalls, hanswer⟩ := hcourse.of_ok houtcome
          refine ⟨_, hanswers, ?_, ?_, ?_, ?_, ?_⟩
          · simp [hcode, hrejected]
          · exact hcode 12
          · simp [hcode]
          · simp [hcode]
          · exact fun _ => ⟨id, payload, native, lines, hline, hnative, hcalls, hanswer⟩
      | error why =>
          have hcode (code : Int) : (Answer.ofResult id result).HasCode code ↔ code = why.code :=
            Answer.hasCode_iff houtcome
          have hfails : ¬(Answer.ofResult id result).Succeeds := by
            simp [Answer.succeeds_iff, Answer.ofResult, houtcome]
          obtain ⟨hwhy, hcalls⟩ | ⟨rfl, hvalid, hcalls⟩ := hcourse.of_error hlimits houtcome
          · obtain ⟨hone, hsix, htwelve⟩ := Failure.code_of_objection hwhy
            refine ⟨_, hanswers, ?_, ?_, ?_, ?_, ?_⟩
            · simp [hcode, hrejected]
              omega
            · simp [hcode]
              omega
            · intros
              exact hcalls
            · simp [hcode]
              omega
            · simp [hfails]
          · refine ⟨_, hanswers, ?_, ?_, ?_, ?_, ?_⟩
            · simp [hcode, hrejected, Failure.code]
            · simp [hcode, Failure.code]
            · simp [hcode, Failure.code]
            · exact fun _ => ⟨id, payload, hline, hvalid, hcalls⟩
            · simp [hfails]

theorem ready_after (hready : x.before.controller.Ready hardware watches g) :
    ∃ next, (x.after hardware).controller.Ready hardware watches next := by
  cases hline : Reading.ofLine x.line with
  | rejected id =>
      rw [after, Session.read_rejected hardware x.before hline]
      exact ⟨g, hready⟩
  | command id payload =>
      rw [after, Session.read_command hardware x.before hline]
      obtain ⟨next, later, result, hnext, -⟩ :=
        hready.dispatch ⟨x.before.summary.requests + 1, payload⟩
      exact ⟨next, hnext⟩

theorem answers_after (hardware : Hardware) (x : Exchange) :
    (x.after hardware).answers = x.before.answers ++ x.answers hardware := by
  have hfirst : x.before.answers <+: (x.after hardware).answers := by
    cases hline : Reading.ofLine x.line with
    | rejected id => simp [after, Session.read_rejected hardware x.before hline]
    | command id payload => simp [after, Session.read_command hardware x.before hline]
  exact (List.prefix_iff_eq_append.mp hfirst).symm

theorem events_after (hardware : Hardware) (x : Exchange) :
    (x.after hardware).events = x.before.events ++
      (if isRejected x.line then [] else (x.before.controller.setUp hardware).2.2) ++
        x.events hardware := by
  cases hline : Reading.ofLine x.line with
  | rejected id =>
      obtain ⟨-, hrejected⟩ := reading_of_rejected hline
      simp [events_of_rejected hline, hrejected, after,
        Session.read_rejected hardware x.before hline]
  | command id payload =>
      obtain ⟨-, hrejected⟩ := reading_of_command hline
      have hafter : x.after hardware = _ := Session.read_command hardware x.before hline
      obtain ⟨later, hlater⟩ := x.before.controller.exists_events_dispatch hardware
        ⟨x.before.summary.requests + 1, payload⟩
      rw [events, if_neg (by simp [hrejected]), hafter, hlater, ← List.append_assoc,
        List.drop_left]

end Exchange

namespace Session

variable {hardware : Hardware} {watches : Bool} {g : Generic}

def exchanges (hardware : Hardware) : Session → List (List UInt8) → List Exchange
  | _, [] => []
  | s, line :: rest => ⟨s, line⟩ :: exchanges hardware (s.read hardware line) rest

theorem line_exchanges (hardware : Hardware) (s : Session) (lines : List (List UInt8)) :
    (s.exchanges hardware lines).map (·.line) = lines := by
  induction lines generalizing s with
  | nil => rfl
  | cons line rest ih => exact congrArg (line :: ·) (ih _)

theorem answers_foldl_read (hardware : Hardware) (s : Session) (lines : List (List UInt8)) :
    (lines.foldl (read hardware) s).answers =
      s.answers ++ (s.exchanges hardware lines).flatMap (·.answers hardware) := by
  induction lines generalizing s with
  | nil => simp [exchanges]
  | cons line rest ih =>
      have hfirst := Exchange.answers_after hardware ⟨s, line⟩
      rw [List.foldl_cons, ih, exchanges, List.flatMap_cons, ← List.append_assoc, ← hfirst]
      rfl

theorem calls_foldl_read (hardware : Hardware) (s : Session) (lines : List (List UInt8)) :
    Event.calls (lines.foldl (read hardware) s).events = Event.calls s.events ++
      (if lines.all isRejected then []
        else Event.calls (s.controller.setUp hardware).2.2) ++
          (s.exchanges hardware lines).flatMap (·.calls hardware) := by
  induction lines generalizing s with
  | nil => simp [exchanges]
  | cons line rest ih =>
      have hfirst := congrArg Event.calls (Exchange.events_after hardware ⟨s, line⟩)
      rw [List.foldl_cons, ih, exchanges, List.flatMap_cons, List.all_cons]
      simp only [Exchange.after, Event.calls_append] at hfirst
      rw [hfirst]
      cases hline : Reading.ofLine line with
      | rejected id =>
          obtain ⟨-, hrejected⟩ := reading_of_rejected hline
          have hnothing : Exchange.events hardware ⟨s, line⟩ = [] :=
            Exchange.events_of_rejected hline
          simp [hrejected, Session.read_rejected hardware s hline, Exchange.calls, hnothing]
      | command id payload =>
          obtain ⟨-, haccepted⟩ := reading_of_command hline
          -- by now the handlers are built, so nothing is seen of that again
          have hbuilt := Controller.isSetUp_dispatch hardware s.controller
            ⟨s.summary.requests + 1, payload⟩
          simp [haccepted, Session.read_command hardware s hline, Exchange.calls,
            Controller.setUp_of_isSetUp hbuilt]

theorem ready_foldl_read {s : Session} (hready : s.controller.Ready hardware watches g)
    (lines : List (List UInt8)) :
    (∃ next, (lines.foldl (read hardware) s).controller.Ready hardware watches next) ∧
      ∀ x ∈ s.exchanges hardware lines, ∃ g, x.before.controller.Ready hardware watches g := by
  induction lines generalizing s g with
  | nil => exact ⟨⟨g, hready⟩, by simp [exchanges]⟩
  | cons line rest ih =>
      obtain ⟨next, hnext⟩ := Exchange.ready_after (x := ⟨s, line⟩) hready
      obtain ⟨hlast, hrest⟩ := ih hnext
      exact ⟨hlast, List.forall_mem_cons.mpr ⟨⟨g, hready⟩, hrest⟩⟩

end Session

/-! ## Serving an input -/

namespace Output

variable {sink : Sink} {o : Output}

theorem write_of_error (herror : o.error?.isSome) (text : String) : o.write sink text = o := by
  rw [write, if_pos herror]

theorem lines_write (sink : Sink) (o : Output) (text : String) :
    (o.write sink text).lines = o.lines ++ [text] ∨
      (o.write sink text).lines = o.lines ∧ (o.write sink text).error?.isSome := by
  unfold write
  dsimp only
  split_ifs with herror
  · exact .inr ⟨rfl, herror⟩
  · exact .inr ⟨rfl, rfl⟩
  · split
    · exact .inr ⟨rfl, rfl⟩
    · exact .inr ⟨rfl, rfl⟩
    · exact .inl rfl

theorem foldl_write_of_error (herror : o.error?.isSome) (texts : List String) :
    texts.foldl (write sink) o = o := by
  induction texts with
  | nil => rfl
  | cons text rest ih => rw [List.foldl_cons, write_of_error herror, ih]

/-- Of the lines that are to be written, some first ones are. -/
theorem lines_foldl_write_prefix (sink : Sink) (texts : List String) (o : Output) :
    (texts.foldl (write sink) o).lines <+: o.lines ++ texts := by
  induction texts generalizing o with
  | nil => simp
  | cons text rest ih =>
      rw [List.foldl_cons]
      obtain hlines | ⟨hlines, herror⟩ := lines_write sink o text
      · have hrest := ih (o.write sink text)
        rwa [hlines, List.append_assoc] at hrest
      · rw [foldl_write_of_error herror, hlines]
        exact List.prefix_append o.lines _

end Output

/-- The answers are those of the exchanges, whose calls are all there are once the hardware has been
opened, and each tells of its line. -/
structure Served.Explained (hardware : Hardware) (watches : Bool) (c : Controller)
    (lines : List (List UInt8)) (sink : Sink) (served : Served) : Prop where
  written_prefix : served.written <+:
    ((Session.exchanges hardware { controller := c } lines).flatMap
      (·.answers hardware)).map (·.render)
  written_eq : sink = {} → served.written =
    ((Session.exchanges hardware { controller := c } lines).flatMap
      (·.answers hardware)).map (·.render)
  calls_eq : Event.calls served.events =
    (if lines.all isRejected then [] else Event.calls (c.setUp hardware).2.2) ++
      (Session.exchanges hardware { controller := c } lines).flatMap (·.calls hardware)
  line_eq : (Session.exchanges hardware { controller := c } lines).map (·.line) = lines
  provenance : ∀ x ∈ Session.exchanges hardware { controller := c } lines, ∃ g a,
    (x.before.controller.setUp hardware).1.Rests watches (some g) ∧ x.HasProvenance hardware g a
  ready : ∃ next, served.controller.Ready hardware watches next

/-- Whatever is read and however writing ends, the answers of a session tell where they come
from. -/
theorem codes_have_provenance {c : Controller} {hardware : Hardware} {watches : Bool} {g : Generic}
    (hready : c.Ready hardware watches g) (hlimits : hardware.KeepsLimits) (source : Source)
    (sink : Sink) :
    (serve hardware c source sink).Explained hardware watches c
      (source.lines.filter (!isBlankLine ·)) sink := by
  let lines := source.lines.filter (!isBlankLine ·)
  have hanswers := Session.answers_foldl_read hardware { controller := c } lines
  have hcalls := Session.calls_foldl_read hardware { controller := c } lines
  obtain ⟨hnext, hexchanges⟩ := Session.ready_foldl_read (s := { controller := c }) hready lines
  have hwritten := Output.lines_foldl_write_prefix sink
    ((Session.readAll hardware c source.lines).answers.map (·.render)) {}
  simp only [Event.calls_nil, List.nil_append] at hanswers hcalls hwritten
  refine ⟨?_, ?_, ?_, ?_, fun x hx => ?_, hnext⟩
  · rw [← hanswers]
    exact hwritten
  · rintro rfl
    rw [← hanswers]
    exact (Output.foldl_write _ rfl).1
  · exact hcalls
  · exact Session.line_exchanges hardware _ lines
  · obtain ⟨g, hready⟩ := hexchanges x hx
    obtain ⟨a, hprovenance⟩ := (Exchange.settled hready).hasProvenance hlimits
    exact ⟨_, a, hready.setUp, hprovenance⟩

/-- Hardware that cannot scan, and has nothing to say otherwise. -/
def scanless : Hardware :=
  .scripted (.ok ()) fun name => if name = "scan" then .ok .notImplemented else .ok (.lines [])

/-- Three commands, the last of them for an adapter that is not there, and a line that is none. -/
def fourLines : Source where
  bytes :=
    "[\"listAdapters\"]\n[\"scan\"]\n[\"scan\",\x7b\"adapter\":\"gone\"\x7d]\nscan".toList.map
      (·.toNat.toUInt8)

theorem fourLines_have_provenance :
    (Daemon.registered "RPI").Ready scanless true { defaultAdapter := "RPI" } ∧
      scanless.KeepsLimits ∧
      (Session.exchanges scanless { controller := Daemon.registered "RPI" }
        (fourLines.lines.filter (!isBlankLine ·))).map (fun x => (x.calls scanless).length) =
          [1, 1, 0, 0] ∧
      (serve scanless (Daemon.registered "RPI") fourLines {}).Explained scanless true
        (Daemon.registered "RPI") (fourLines.lines.filter (!isBlankLine ·)) {} := by
  have hready := Daemon.registered_ready "RPI" scanless
  have hlimits : scanless.KeepsLimits := by
    refine ⟨by simp [scanless, Hardware.scripted], fun executed command field message => ?_⟩
    simp only [scanless, Hardware.scripted]
    split <;> simp
  exact ⟨hready, hlimits, by decide +kernel, codes_have_provenance hready hlimits fourLines {}⟩

end CecGateway
