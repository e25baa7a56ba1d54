import CecGateway.Proofs.Answer.Shape
import CecGateway.Proofs.Envelope
import CecGateway.Proofs.Serving.Faults

/-!
# Identifiers come back

An answer carries the identifier of its request, as it is read from the line that has been written;
but an identifier that is `null` does not come back (`identifiers_are_echoed`).
-/

namespace CecGateway

open Request (Identifies)

/-- From the line of the answer, the identifier is read that the request has. -/
structure Answer.Echoes (a : Answer) (line : List UInt8) : Prop where
  given : ∀ v, Identifies line (some v) → v ≠ .null →
    ∃ shown, Json.parse? a.line = some shown ∧ shown.member? "id" = some v
  absent : Identifies line none ∨ Identifies line (some .null) →
    ∃ shown, Json.parse? a.line = some shown ∧ shown.member? "id" = none

theorem Answer.Answers.echoes {a : Answer} {line : List UInt8} (h : a.Answers line) :
    a.Echoes line := by
  have hread {id? : Option Json} (hid : Identifies line id?) :
      (id? = some .null ∧ a.id = none ∨ id? ≠ some .null ∧ a.id = id?) ∧
        ∃ shown, Json.parse? a.line = some shown ∧ shown.member? "id" = a.id := by
    obtain ⟨r, hrequest, hcases, hplain⟩ := hid.id_eq
    have hsame : a.id = r.id := by
      rw [← a.member?_id, h.id_eq, envelopeId, hrequest]
    rw [← hsame] at hcases hplain
    exact ⟨hcases, a.shown, parse_line hplain (by decide), member?_shown_id hplain⟩
  refine ⟨fun v hid hgiven => ?_, ?_⟩
  · obtain ⟨⟨hnull, -⟩ | ⟨-, hsame⟩, hshown⟩ := hread hid
    · exact absurd (Option.some_inj.mp hnull) hgiven
    · rwa [hsame] at hshown
  · rintro (hid | hid)
    · obtain ⟨⟨hnull, -⟩ | ⟨-, hsame⟩, hshown⟩ := hread hid
      · contradiction
      · rwa [hsame] at hshown
    · obtain ⟨⟨-, hnone⟩ | ⟨hother, -⟩, hshown⟩ := hread hid
      · rwa [hnone] at hshown
      · exact absurd rfl hother

/-! ## Sessions -/

variable {c : Controller} {watches : Bool} {generic? : Option Generic}

theorem Serving.Sound.answers_of_mem {s : Serving} {lines : List (List UInt8)} (h : s.Sound lines) :
    ∀ p ∈ s.ledger.answers, ∃ line, lines[p.1 - 1]? = some line ∧ p.2.Answers line := by
  intro p hp
  obtain ⟨line, hline, hanswers⟩ := h.ledger.answered p hp
  refine ⟨line, ?_, hanswers⟩
  rw [← h.requests_eq, List.getElem?_append_left (List.getElem?_eq_some_iff.mp hline).1, hline]

/-- The answers of a session are those to its lines, in their order. -/
theorem Session.answers_readAll (hrests : c.Rests watches generic?) (hardware : Hardware)
    (lines : List (List UInt8)) :
    List.Forall₂ Answer.Answers (Session.readAll hardware c lines).answers
      (lines.filter (!isBlankLine ·)) := by
  let s : Serving := { Serving.start generic? true [] with unread := lines }
  have hstart := Serving.start_sound hrests.quiet true []
  have hsound : s.Sound (lines.filter (!isBlankLine ·)) :=
    ⟨rfl, hstart.rejected_eq, hstart.ledger, hstart.written_le, hstart.idle, hstart.attends⟩
  have hrested := Session.matches_start hrests true []
  have hmatches : Session.Matches watches { controller := c } s :=
    ⟨hrested.rests, hrested.callers_eq, hrested.summary_eq, hrested.answers_eq, hrested.awaited_eq,
      hrested.completed_eq, hrested.offered_eq⟩
  obtain ⟨next, ⟨steps, rfl⟩, hnext, hunread, -⟩ := hmatches.foldl_read hardware rfl
  have hsound := hsound.run steps
  have hrequests := hsound.requests_eq
  have hturn := (hsound.ledger.in_turn (Serving.run_frame s steps).1).2
  rw [hunread, List.filter_nil, List.append_nil] at hrequests
  rw [hnext.awaited_eq, List.map_nil, List.append_nil, hrequests] at hturn
  have hanswers := Serving.answers_in_turn hturn hsound.answers_of_mem
  rw [← hnext.answers_eq] at hanswers
  exact hanswers

/-- The identifier of a request comes back with its answer, unless it is `null`: then, as when there
is none, the answer has none. So it is in every run of the steps, and in serving over any hardware,
whatever is read and whatever becomes of the writing. -/
theorem identifiers_are_echoed (hrests : c.Rests watches generic?) :
    (∀ input waits steps, ∀ p ∈ ((Serving.start generic? waits input).run steps).ledger.answers,
      ∃ line, ((splitLines input).filter (!isBlankLine ·))[p.1 - 1]? = some line ∧
        p.2.Echoes line) ∧
      ∀ hardware source, ∃ answers,
        List.Forall₂ Answer.Echoes answers (source.lines.filter (!isBlankLine ·)) ∧
          (serve hardware c source {}).written = answers.map (·.render) ∧
          ∀ sink, (serve hardware c source sink).written <+: answers.map (·.render) := by
  refine ⟨fun input waits steps p hp => ?_, fun hardware source => ?_⟩
  · have hsound := (Serving.start_sound hrests.quiet waits input).run steps
    obtain ⟨line, hline, hanswers⟩ := hsound.answers_of_mem p hp
    exact ⟨line, hline, hanswers.echoes⟩
  · have hanswers := Session.answers_readAll hrests hardware source.lines
    refine ⟨_, hanswers.imp fun _ _ => Answer.Answers.echoes, ?_, fun sink => ?_⟩
    · exact (Output.foldl_write _ rfl).1
    · exact Output.lines_foldl_write_prefix sink _ {}

/-- A scan with an identifier of this text. -/
def scanLine (id : List Char) : List UInt8 :=
  Utf8.encode ('\x7b' :: ("\"method\"".toList ++ ':' :: "\"scan\"".toList ++
    ',' :: ("\"id\"".toList ++ ':' :: id)) ++ ['\x7d']) ++ [10]

theorem identifies_scanLine {v : Json} {id : List Char} (hid : Json.Spells 126 v id)
    (hsize : (scanLine id).length ≤ Request.maxBytes) : Identifies (scanLine id) (some v) := by
  have hw := Json.SpellsMembers.cons (Json.spells_quote "method") (Json.spells_quote "scan")
    (.last (Json.spells_quote "id") hid)
  let members : List (String × Json) := [("method", .str "scan"), ("id", v)]
  have hfields : ∀ m ∈ members, Request.IsField m.1 m.2 := by
    simp [members, Request.IsField.method, Request.IsField.id]
  have hrequest : (Request.Draft.ofMembers members).request? = some _ :=
    Request.Draft.request?_ofMembers rfl rfl
  have hparse := Request.parse_of_spells hw (List.nil_subset _) hfields (by simp) hrequest
    (show [10] ⊆ [32, 9, 10, 12, 13] by decide) hsize
  exact Request.identifies_of_spells hw (List.nil_subset _) (by decide) hparse rfl

theorem nested_identifier_comes_back :
    (Daemon.registered "RPI").Rests true (some { defaultAdapter := "RPI" }) ∧
      ∀ hardware, ∃ a : Answer,
        (serve hardware (Daemon.registered "RPI") ⟨scanLine "[7]".toList, none⟩ {}).written =
          [a.render] ∧
        ∃ shown, Json.parse? a.line = some shown ∧ shown.member? "id" = some (.arr [.int 7]) := by
  have hrests := Daemon.registered_rests "RPI"
  have hid : Json.Spells 126 (.arr [.int 7]) "[7]".toList :=
    .arr (.last (.int ⟨by decide, by decide⟩))
  have hidentifies := identifies_scanLine hid (by decide)
  have hlines : (splitLines (scanLine "[7]".toList)).filter (!isBlankLine ·) =
      [scanLine "[7]".toList] := by decide +kernel
  refine ⟨hrests, fun hardware => ?_⟩
  obtain ⟨answers, hechoes, hwritten, -⟩ :=
    (identifiers_are_echoed hrests).2 hardware ⟨scanLine "[7]".toList, none⟩
  rw [show Source.lines _ = splitLines (scanLine "[7]".toList) from rfl, hlines] at hechoes
  obtain ⟨a, others, hecho, hnone, rfl⟩ := List.forall₂_cons_right_iff.mp hechoes
  obtain rfl := List.forall₂_nil_right_iff.mp hnone
  exact ⟨a, hwritten, hecho.given _ hidentifies (by simp)⟩

theorem null_does_not_come_back :
    let hardware := Hardware.scripted (.ok ()) fun _ => .ok (.lines [])
    let served := serve hardware (Daemon.registered "RPI") ⟨scanLine "null".toList, none⟩ {}
    let text := "\x7b\"returnValue\":true,\"devices\":[]\x7d"
    Identifies (scanLine "null".toList) (some .null) ∧ served.written = [text] ∧
      ((Json.parse? (Utf8.bytes text)).bind (Json.member? "id")).isNone = true := by
  refine ⟨identifies_scanLine .null (by decide), ?_⟩
  decide +kernel

end CecGateway
