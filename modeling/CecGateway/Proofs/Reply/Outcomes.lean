import CecGateway.Proofs.Delivery.Registry
import CecGateway.Proofs.Reply.Answers

/-!
# When a reply is a failure

Only a sub-command that reports no value can fail by its reply, and only if the first line about its
response says so. Every other reply, one without lines too, is a success with data of the kind that
was asked for (`failures_are_reported`).
-/

namespace CecGateway

namespace Reply

/-- The sub-commands that report no value, but how they went. -/
def statusCommands : List String := ["active", "one-touch-play", "vendor-commands"]

def failureWords : List String := ["failure", "failed", "error"]

/-- What the first response line says. -/
def response? (lines : List String) : Option String :=
  (Line.find? "response" lines).map fun line => Text.trimmed (Line.value line)

end Reply

/-- The reply to the command says that it failed. -/
def Payload.IsRefused (lines : List String) : Payload → Prop
  | sendCommand _ _ _ c =>
    c.name ∈ Reply.statusCommands ∧ ∃ word ∈ Reply.failureWords, Reply.response? lines = some word
  | _ => False

namespace Reply

variable {lines : List String} {c : SubCommand}

theorem status_eq (lines : List String) :
    status lines = match response? lines with
      | none => .ok []
      | some answer =>
        if answer = "success" then .ok []
        else if answer ∈ failureWords then .error .hardwareUnavailable
        else .ok [⟨"response", answer⟩] := by
  unfold status response?
  cases Line.find? "response" lines <;> rfl

theorem status_eq_error_iff {why : Failure} :
    status lines = .error why ↔
      why = .hardwareUnavailable ∧ ∃ word ∈ failureWords, response? lines = some word := by
  rw [status_eq]
  cases response? lines with
  | none => simp
  | some answer =>
      have hsuccess : "success" ∉ failureWords := by decide
      simp only [Option.some_inj]
      by_cases hok : answer = "success"
      · simp [hok, hsuccess]
      · by_cases hfails : answer ∈ failureWords <;> simp [hok, hfails, eq_comm]

theorem entries_of_status {entries : List Entry} (h : status lines = .ok entries) :
    (entries = [] ↔ response? lines = none ∨ response? lines = some "success") ∧
      (entries ≠ [] → ∃ answer, response? lines = some answer ∧
        entries = [⟨"response", answer⟩]) := by
  rw [status_eq] at h
  cases hresponse : response? lines with
  | none =>
      simp only [hresponse] at h
      obtain rfl := Except.ok.inj h
      simp
  | some answer =>
      simp only [hresponse] at h
      split_ifs at h with hok
      · obtain rfl := Except.ok.inj h
        simp [hok]
      · obtain rfl := Except.ok.inj h
        simp [hok]

theorem sendCommand_of_mem_statusCommands (hname : c.name ∈ statusCommands) :
    sendCommand c lines = status lines := by
  simp only [statusCommands, List.mem_cons, List.not_mem_nil, or_false] at hname
  obtain hname | hname | hname := hname <;> simp only [sendCommand, hname]

theorem sendCommand_eq_error_iff {why : Failure} :
    sendCommand c lines = .error why ↔ why = .hardwareUnavailable ∧ c.name ∈ statusCommands ∧
      ∃ word ∈ failureWords, response? lines = some word := by
  by_cases hname : c.name ∈ statusCommands
  · rw [sendCommand_of_mem_statusCommands hname, status_eq_error_iff]
    simp only [hname, true_and]
  · have hok : ∃ entries, sendCommand c lines = .ok entries := by
      unfold sendCommand
      split <;> first | exact ⟨_, rfl⟩ | simp_all [statusCommands]
    obtain ⟨entries, hentries⟩ := hok
    simp [hentries, hname]

theorem outcome_sendCommand (hlines : lines ≠ []) (adapter : Option String) (destination : String)
    (timeout : UInt32) :
    (interpret (.sendCommand adapter destination timeout c) lines).outcome =
      (sendCommand c lines).map .entries := by
  rw [interpret_of_ne_nil hlines]

theorem outcome_eq_error_iff (payload : Payload) (lines : List String) {why : Failure} :
    (interpret payload lines).outcome = .error why ↔
      why = .hardwareUnavailable ∧ payload.IsRefused lines := by
  by_cases hlines : lines = []
  -- silence is a success and refuses nothing
  · subst hlines
    have hok : (interpret payload []).outcome = .ok (.empty payload.kind) := rfl
    have hresponse : response? [] = none := rfl
    cases payload <;> simp [hok, hresponse, Payload.IsRefused]
  cases payload with
  | sendCommand adapter destination timeout c =>
      have hmap : (sendCommand c lines).map Data.entries = .error why ↔
          sendCommand c lines = .error why := by
        cases sendCommand c lines <;> simp [Except.map]
      rw [outcome_sendCommand hlines, hmap, sendCommand_eq_error_iff]
      rfl
  | listAdapters | scan | getConfig | setConfig =>
      rw [interpret_of_ne_nil hlines]
      simp [Result.success, Result.empty, Payload.IsRefused]

/-- A success of a command that reports how it went holds what the response line says. -/
theorem entries_of_outcome (hname : c.name ∈ statusCommands) {adapter : Option String}
    {destination : String} {timeout : UInt32} {entries : List Entry}
    (houtcome : (interpret (.sendCommand adapter destination timeout c) lines).outcome =
      .ok (.entries entries)) :
    (entries = [] ↔ response? lines = none ∨ response? lines = some "success") ∧
      (entries ≠ [] → ∃ answer, response? lines = some answer ∧
        entries = [⟨"response", answer⟩]) := by
  by_cases hlines : lines = []
  · subst hlines
    obtain rfl : [] = entries := Data.entries.inj (Except.ok.inj houtcome)
    exact ⟨iff_of_true rfl (.inl rfl), absurd rfl⟩
  rw [outcome_sendCommand hlines, sendCommand_of_mem_statusCommands hname] at houtcome
  cases hstatus : status lines with
  | error why => simp [hstatus, Except.map] at houtcome
  | ok reported =>
      obtain rfl : reported = entries := by simpa [hstatus, Except.map] using houtcome
      exact entries_of_status hstatus

end Reply

/-- A reply is of the kind that was asked for. It is a failure if it refuses the command, and else a
success with data of that kind. A success of a command that reports how it went says what the first
response line says, or nothing if there is no such line or it says `success`. -/
theorem failures_are_reported (payload : Payload) (lines : List String) :
    let result := Reply.interpret payload lines
    result.kind = payload.kind ∧
      (payload.IsRefused lines ∧ result.outcome = .error .hardwareUnavailable ∨
        ¬payload.IsRefused lines ∧ ∃ data, result.outcome = .ok data ∧ data.kind = payload.kind) ∧
      ∀ adapter destination timeout c entries,
        payload = .sendCommand adapter destination timeout c → c.name ∈ Reply.statusCommands →
          result.outcome = .ok (.entries entries) →
            (entries = [] ↔
              Reply.response? lines = none ∨ Reply.response? lines = some "success") ∧
            (entries ≠ [] → ∃ answer, Reply.response? lines = some answer ∧
              entries = [⟨"response", answer⟩]) := by
  intro result
  have hresult : result.IsOf payload.kind := Reply.isOf_interpret payload lines
  refine ⟨hresult.kind_eq, ?_, ?_⟩
  · cases houtcome : result.outcome with
    | error why =>
        obtain ⟨rfl, hrefused⟩ := (Reply.outcome_eq_error_iff payload lines).mp houtcome
        exact .inl ⟨hrefused, rfl⟩
    | ok data =>
        refine .inr ⟨fun hrefused => ?_, data, rfl, hresult.data_kind_eq data houtcome⟩
        have herror := (Reply.outcome_eq_error_iff payload lines).mpr ⟨rfl, hrefused⟩
        exact absurd (houtcome.symm.trans herror) (by simp)
  · rintro adapter destination timeout c entries rfl hname houtcome
    exact Reply.entries_of_outcome hname houtcome

/-- The first of two response lines counts, and it is neither a success nor a failure. -/
theorem other_response_is_reported :
    let lines := ["opening", "response:  busy\t", "response: failed"]
    let payload : Payload :=
      .sendCommand none "0" 1000 ⟨"vendor-commands", [⟨"vendor-command", none⟩]⟩
    let entries : List Entry := [⟨"response", "busy"⟩]
    (Reply.interpret payload lines).outcome = .ok (.entries entries) ∧
      ¬payload.IsRefused lines ∧
      ∃ answer, Reply.response? lines = some answer ∧ entries = [⟨"response", answer⟩] := by
  intro lines payload entries
  have houtcome : (Reply.interpret payload lines).outcome = .ok (.entries entries) := by rfl
  obtain ⟨-, hcases, hentries⟩ := failures_are_reported payload lines
  obtain ⟨-, hfailed⟩ | ⟨hnot, -⟩ := hcases
  · exact absurd (houtcome.symm.trans hfailed) (by simp)
  · have hname : "vendor-commands" ∈ Reply.statusCommands := by decide
    obtain ⟨-, hanswer⟩ := hentries none "0" 1000 _ entries rfl hname houtcome
    exact ⟨houtcome, hnot, hanswer (List.cons_ne_nil _ _)⟩

end CecGateway
