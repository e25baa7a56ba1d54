import CecGateway.Proofs.Controller.Tickets
import CecGateway.Proofs.Controller.Watcher
import CecGateway.Proofs.Delivery.Registry
import CecGateway.Proofs.Serving.Answered

/-!
# Sessions compose

All that outlives a line is in the controller. So it makes no difference whether an input is served
by one session, or cut into pieces at ends of lines and each piece served by a session of its own:
the same is written, and the same is done (`sessions_compose`). The tickets that the sessions give
out are not the same, since each session counts its own requests; nothing depends on them, as long
as they are not those of commands that were already under way.
-/

namespace CecGateway

/-! ## Events without their tickets -/

namespace Event

def anonymous : Event → Event := renamed fun _ => 0

variable {events others : List Event}

theorem anonymous_renamed (f : Nat → Nat) (e : Event) : (e.renamed f).anonymous = e.anonymous := by
  cases e <;> rfl

/-- Whoever does not look at completions sees no tickets. -/
theorem filterMap_eq_of_anonymous {β : Type} {see : Event → Option β}
    (hsee : ∀ ticket result, see (.completed ticket result) = none)
    (hsame : events.map anonymous = others.map anonymous) :
    events.filterMap see = others.filterMap see := by
  have hunseen (e : Event) : see e.anonymous = see e := by
    cases e with
    | completed ticket result => rw [hsee]; exact hsee _ _
    | _ => rfl
  have hmapped (events : List Event) :
      events.filterMap see = (events.map anonymous).filterMap see := by
    rw [List.filterMap_map]
    exact List.filterMap_congr fun e _ => (hunseen e).symm
  rw [hmapped events, hsame, ← hmapped others]

end Event

theorem answersTo_renamed {f : Nat → Nat} (hinjective : f.Injective) (ticket : Nat)
    (id : Option Json) (events : List Event) :
    answersTo (f ticket) id (events.map (·.renamed f)) = answersTo ticket id events := by
  rw [answersTo, answersTo, List.filterMap_map]
  refine List.filterMap_congr fun e _ => ?_
  cases e with
  | completed t result => simp [Event.renamed, hinjective.eq_iff]
  | _ => rfl

/-! ## A session that goes on -/

namespace Session

/-- The session has gone on, since it was as `before`, as another one has gone from its start. -/
structure GoesOn (before x y : Session) : Prop where
  controller_alike : x.controller.Alike y.controller
  requests_eq : x.summary.requests = before.summary.requests + y.summary.requests
  rejected_eq : x.summary.rejected = before.summary.rejected + y.summary.rejected
  answers_eq : x.answers = before.answers ++ y.answers
  events_eq : x.events.map Event.anonymous = (before.events ++ y.events).map Event.anonymous

/-- Tickets that the session has still to give out are free. -/
structure Clear (limit : Nat) (x : Session) : Prop where
  isSteady : x.controller.IsSteady
  unused : ∀ ticket ∈ x.controller.tickets, ticket ∉ List.range' 1 limit

variable {before x y : Session} {limit : Nat}

theorem goesOn_start (before : Session) :
    before.GoesOn before { controller := before.controller } where
  controller_alike := ⟨rfl, rfl, rfl, rfl⟩
  requests_eq := rfl
  rejected_eq := rfl
  answers_eq := (List.append_nil _).symm
  events_eq := by simp

theorem Clear.read (hclear : x.Clear limit) (hardware : Hardware) (line : List UInt8) :
    (x.read hardware line).Clear limit := by
  cases hline : Reading.ofLine line with
  | rejected id =>
      rw [read_rejected hardware x hline]
      exact ⟨hclear.isSteady, hclear.unused⟩
  | command id payload =>
      rw [read_command hardware x hline]
      obtain ⟨hsteady, htickets⟩ :=
        hclear.isSteady.dispatch hardware ⟨x.summary.requests + 1, payload⟩
      exact ⟨hsteady, fun ticket hticket => hclear.unused ticket (htickets hticket)⟩

theorem Clear.foldl_read (hclear : x.Clear limit) (hardware : Hardware)
    (lines : List (List UInt8)) : (lines.foldl (Session.read hardware) x).Clear limit := by
  induction lines generalizing x with
  | nil => exact hclear
  | cons line rest ih => exact ih (hclear.read hardware line)

theorem requests_read (hardware : Hardware) (x : Session) (line : List UInt8) :
    (x.read hardware line).summary.requests = x.summary.requests + 1 := by
  cases hline : Reading.ofLine line with
  | rejected id => rw [read_rejected hardware x hline]
  | command id payload => rw [read_command hardware x hline]

theorem requests_foldl_read (hardware : Hardware) (x : Session) (lines : List (List UInt8)) :
    (lines.foldl (read hardware) x).summary.requests = x.summary.requests + lines.length := by
  induction lines generalizing x with
  | nil => rfl
  | cons line rest ih =>
      rw [List.foldl_cons, ih, requests_read, List.length_cons]
      omega

theorem Clear.unused_of_le (hclear : x.Clear limit) {ticket : Nat} (hpositive : 0 < ticket)
    (hle : ticket ≤ limit) : ticket ∉ x.controller.tickets := fun hused =>
  hclear.unused ticket hused (by
    rw [List.mem_range'_1]
    omega)

/-- A line is read with the same effect, whatever number it has. -/
theorem GoesOn.read (h : before.GoesOn x y) (hclear : x.Clear limit)
    (hroom : x.summary.requests < limit) (hardware : Hardware) (line : List UInt8) :
    before.GoesOn (x.read hardware line) (y.read hardware line) := by
  obtain ⟨halike, hrequests, hrejected, hanswers, hevents⟩ := h
  cases hline : Reading.ofLine line with
  | rejected id =>
      rw [read_rejected hardware x hline, read_rejected hardware y hline]
      refine ⟨halike, ?_, ?_, ?_, hevents⟩
      · rw [hrequests, Nat.add_assoc]
      · rw [hrejected, Nat.add_assoc]
      · rw [hanswers, List.append_assoc]
  | command id payload =>
      rw [read_command hardware x hline, read_command hardware y hline]
      have hticket : x.summary.requests + 1 ∉ x.controller.tickets :=
        hclear.unused_of_le (by omega) hroom
      have hanother : y.summary.requests + 1 ∉ x.controller.tickets :=
        hclear.unused_of_le (by omega) (by omega)
      obtain ⟨hafter, -, hseen⟩ :=
        halike.dispatch_under hclear.isSteady hardware payload hticket hanother
      refine ⟨hafter, ?_, hrejected, ?_, ?_⟩
      · rw [hrequests, Nat.add_assoc]
      · have hsame := answersTo_renamed
          (Equiv.swap (x.summary.requests + 1) (y.summary.requests + 1)).injective
          (x.summary.requests + 1) id
          (x.controller.dispatch hardware ⟨x.summary.requests + 1, payload⟩).2.2
        rw [Equiv.swap_apply_left, hseen] at hsame
        rw [hanswers, List.append_assoc, hsame]
      · rw [← hseen]
        simp only [List.map_append] at hevents ⊢
        rw [hevents, List.append_assoc, List.map_map]
        refine congrArg _ (congrArg _ (List.map_congr_left fun e _ => ?_))
        exact (e.anonymous_renamed _).symm

theorem GoesOn.foldl_read (h : before.GoesOn x y) (hclear : x.Clear limit) (hardware : Hardware)
    {lines : List (List UInt8)} (hroom : x.summary.requests + lines.length ≤ limit) :
    before.GoesOn (lines.foldl (Session.read hardware) x)
      (lines.foldl (Session.read hardware) y) := by
  induction lines generalizing x y with
  | nil => exact h
  | cons line rest ih =>
      rw [List.length_cons] at hroom
      refine ih (h.read hclear (by omega) hardware line) (hclear.read hardware line) ?_
      rw [requests_read]
      omega

end Session

/-! ## Sessions one after the other -/

/-- Each piece is served by a session of its own. -/
def serveInTurn (hardware : Hardware) : Controller → List (List UInt8) → List Served × Controller
  | c, [] => ([], c)
  | c, piece :: rest =>
    let served := serve hardware c ⟨piece, none⟩ {}
    let (later, last) := serveInTurn hardware served.controller rest
    (served :: later, last)

/-- One session has done what these have done one after the other, the last of which leaves its
controller as it is now. -/
structure Served.Joins (whole : Served) (parts : List Served) (last : Controller) : Prop where
  written_eq : whole.written = parts.flatMap (·.written)
  result_eq : ∃ summaries : List Summary, parts.map (·.result) = summaries.map .ok ∧
    whole.result = .ok ⟨(summaries.map (·.requests)).sum, (summaries.map (·.rejected)).sum⟩
  calls_eq : Event.calls whole.events = Event.calls (parts.flatMap (·.events))
  told_eq : ∀ observer,
    Event.told observer whole.events = Event.told observer (parts.flatMap (·.events))
  sightings_eq : Event.sightings whole.events = Event.sightings (parts.flatMap (·.events))
  events_eq : whole.events.map Event.anonymous = (parts.flatMap (·.events)).map Event.anonymous
  controller_alike : whole.controller.Alike last

/-- The requests in an input. -/
def requestsIn (input : List UInt8) : List (List UInt8) :=
  (splitLines input).filter (!isBlankLine ·)

theorem requestsIn_append {a : List UInt8} (hends : a = [] ∨ isTerminated a = true)
    (b : List UInt8) : requestsIn (a ++ b) = requestsIn a ++ requestsIn b := by
  have hends : a = [] ∨ a.getLast? = some 10 := by simpa [isTerminated] using hends
  rw [requestsIn, splitLines_append hends, List.filter_append]
  rfl

namespace Served

variable {whole : Served} {parts : List Served} {last : Controller}

theorem joins_of_events (summaries : List Summary)
    (hwritten : whole.written = parts.flatMap (·.written))
    (hparts : parts.map (·.result) = summaries.map .ok)
    (hwhole : whole.result =
      .ok ⟨(summaries.map (·.requests)).sum, (summaries.map (·.rejected)).sum⟩)
    (hevents : whole.events.map Event.anonymous =
      (parts.flatMap (·.events)).map Event.anonymous)
    (halike : whole.controller.Alike last) : whole.Joins parts last where
  written_eq := hwritten
  result_eq := ⟨summaries, hparts, hwhole⟩
  calls_eq := Event.filterMap_eq_of_anonymous (fun _ _ => rfl) hevents
  told_eq _ := Event.filterMap_eq_of_anonymous (fun _ _ => rfl) hevents
  sightings_eq := Event.filterMap_eq_of_anonymous (fun _ _ => rfl) hevents
  events_eq := hevents
  controller_alike := halike

/-- What follows the first piece may be cut again. -/
theorem Joins.cut {first rest : Served} (h : whole.Joins [first, rest] rest.controller)
    (hrest : rest.Joins parts last) : whole.Joins (first :: parts) last := by
  obtain ⟨summaries, hparts, hresult⟩ := h.result_eq
  obtain ⟨later, hlater, hafter⟩ := hrest.result_eq
  obtain ⟨summary, others, rfl, hsummary, hothers⟩ := List.map_eq_cons_iff.mp hparts.symm
  obtain ⟨total, none, rfl, htotal, hnone⟩ := List.map_eq_cons_iff.mp hothers
  obtain rfl := List.map_eq_nil_iff.mp hnone
  have htotal : total = _ := Except.ok.inj (htotal.trans hafter)
  have hwritten := h.written_eq
  have hevents := h.events_eq
  refine joins_of_events (summary :: later) ?_ ?_ ?_ ?_
    (h.controller_alike.trans hrest.controller_alike)
  · simpa [hrest.written_eq] using hwritten
  · rw [List.map_cons, List.map_cons, hlater, hsummary]
  · simpa [htotal] using hresult
  · simpa [hrest.events_eq] using hevents

end Served

/-- What a session without faults comes to. -/
def Session.served (x : Session) : Served :=
  ⟨x.controller, x.events, x.answers.map (·.render), .ok x.summary⟩

theorem serve_eq_served (hardware : Hardware) (c : Controller) (input : List UInt8) :
    serve hardware c ⟨input, none⟩ {} =
      ((requestsIn input).foldl (Session.read hardware) { controller := c }).served :=
  serve_eq hardware c input

theorem Session.GoesOn.joins {before x y : Session} (h : before.GoesOn x y) :
    x.served.Joins [before.served, y.served] y.controller := by
  obtain ⟨halike, hrequests, hrejected, hanswers, hevents⟩ := h
  refine Served.joins_of_events [before.summary, y.summary] ?_ rfl ?_ ?_ halike
  · simp [served, hanswers]
  · simp [served, ← hrequests, ← hrejected]
  · simpa [served] using hevents

theorem Session.served_joins (x : Session) : x.served.Joins [x.served] x.controller := by
  refine Served.joins_of_events [x.summary] ?_ rfl ?_ ?_ ⟨rfl, rfl, rfl, rfl⟩
  · simp
  · simp [served]
  · simp

section

variable {c : Controller} {limit : Nat}

theorem serve_append (hclear : Session.Clear limit { controller := c }) (hardware : Hardware)
    {a b : List UInt8} (hends : a = [] ∨ isTerminated a = true)
    (hroom : (requestsIn (a ++ b)).length ≤ limit) :
    let first := serve hardware c ⟨a, none⟩ {}
    let second := serve hardware first.controller ⟨b, none⟩ {}
    (serve hardware c ⟨a ++ b, none⟩ {}).Joins [first, second] second.controller ∧
      Session.Clear limit { controller := first.controller } := by
  intro first second
  have hafter := hclear.foldl_read hardware (requestsIn a)
  have hread := Session.requests_foldl_read hardware { controller := c } (requestsIn a)
  rw [requestsIn_append hends, List.length_append] at hroom
  simp only [first, second, serve_eq_served, requestsIn_append hends, List.foldl_append]
  generalize (requestsIn a).foldl (Session.read hardware) { controller := c } = before
    at hafter hread
  have hstart := Session.goesOn_start before
  exact ⟨(hstart.foldl_read hafter hardware (by simpa [hread] using hroom)).joins,
    hafter.isSteady, hafter.unused⟩

theorem serve_flatten (hclear : Session.Clear limit { controller := c }) (hardware : Hardware)
    {pieces : List (List UInt8)}
    (hends : ∀ piece ∈ pieces.dropLast, piece = [] ∨ isTerminated piece = true)
    (hroom : (requestsIn pieces.flatten).length ≤ limit) :
    (serve hardware c ⟨pieces.flatten, none⟩ {}).Joins (serveInTurn hardware c pieces).1
      (serveInTurn hardware c pieces).2 := by
  induction pieces generalizing c with
  | nil => exact Served.joins_of_events [] rfl rfl rfl rfl ⟨rfl, rfl, rfl, rfl⟩
  | cons piece rest ih =>
      cases rest with
      | nil =>
          simp only [serveInTurn, List.flatten_cons, List.flatten_nil, List.append_nil,
            serve_eq_served]
          exact Session.served_joins _
      | cons next rest =>
          rw [List.dropLast_cons_cons, List.forall_mem_cons] at hends
          have hboth := requestsIn_append hends.1 (next :: rest).flatten
          obtain ⟨hjoins, hafter⟩ := serve_append hclear hardware hends.1 hroom
          refine hjoins.cut (ih hafter hends.2 ?_)
          rw [List.flatten_cons, hboth, List.length_append] at hroom
          omega

end

/-- Cutting an input at ends of lines changes nothing: one session does what several do one after
the other on the same controller, whether two or more. -/
theorem sessions_compose {c : Controller} (hsteady : c.IsSteady) (hardware : Hardware)
    {a b : List UInt8} (hends : a = [] ∨ isTerminated a = true)
    (hothers : ∀ ticket ∈ c.tickets, ticket ∉ List.range' 1 (requestsIn (a ++ b)).length) :
    let whole := serve hardware c ⟨a ++ b, none⟩ {}
    let first := serve hardware c ⟨a, none⟩ {}
    let second := serve hardware first.controller ⟨b, none⟩ {}
    whole.Joins [first, second] second.controller ∧
      ∀ pieces : List (List UInt8), pieces.flatten = a ++ b →
        (∀ piece ∈ pieces.dropLast, piece = [] ∨ isTerminated piece = true) →
          whole.Joins (serveInTurn hardware c pieces).1 (serveInTurn hardware c pieces).2 := by
  intro whole first second
  have hclear : Session.Clear (requestsIn (a ++ b)).length { controller := c } :=
    ⟨hsteady, hothers⟩
  refine ⟨(serve_append hclear hardware hends le_rfl).1, fun pieces hpieces hcuts => ?_⟩
  have hjoins := serve_flatten hclear hardware hcuts (by rw [hpieces])
  rwa [hpieces] at hjoins

/-- Another caller's command has been submitted, and the worker has not begun. -/
def busyController : Controller where
  chain? :=
    let submitted := history "RPI" [.offer ⟨7, .listAdapters⟩, .advance 0, .advance 0, .advance 0]
    some ⟨[.lgTelevision, .generic submitted.now.handler], true⟩

theorem busyController_sessions_compose :
    let hardware := Hardware.scripted (.ok ()) fun _ => .ok .notImplemented
    let whole := serve hardware busyController ⟨raggedInput, none⟩ {}
    let first := serve hardware busyController ⟨raggedInput.take 17, none⟩ {}
    let second := serve hardware first.controller ⟨raggedInput.drop 17, none⟩ {}
    busyController.IsSteady ∧ busyController.tickets = [7] ∧
      isTerminated (raggedInput.take 17) = true ∧
      (Event.completions first.events).map (·.1) = [7, 1] ∧
      whole.Joins [first, second] second.controller := by
  intro hardware whole first second
  have hhandler := history_steady "RPI"
    [.offer ⟨7, .listAdapters⟩, .advance 0, .advance 0, .advance 0] rfl rfl rfl
  have hsteady : busyController.IsSteady := by
    refine ⟨List.forall_mem_cons.mpr ⟨trivial, List.forall_mem_cons.mpr ⟨hhandler, ?_⟩⟩, ?_⟩
    · exact List.forall_mem_nil _
    · exact List.forall_mem_nil _
  have htickets : busyController.tickets = [7] := by decide +kernel
  have hends : isTerminated (raggedInput.take 17) = true := by decide
  have hjoins := (sessions_compose (b := raggedInput.drop 17) hsteady hardware (.inr hends)
    (by rw [htickets]; decide +kernel)).1
  rw [List.take_append_drop] at hjoins
  exact ⟨hsteady, htickets, hends, by decide +kernel, hjoins⟩

end CecGateway
