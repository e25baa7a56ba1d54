import CecGateway.Reply.Interpret

/-!
# What a reply answers

A reply with lines answers the question that was asked: a setting that is read comes back under its
key, and a sub-command that reports values has one entry for each value it asks for, in the order
of the question. A reply without lines answers nothing, whatever was asked: it is the default data
of its kind, which names no key and no argument.
-/

namespace CecGateway

namespace SubCommand

/-- The names of the values that a sub-command asks for, if it reports values. -/
def asked? (c : SubCommand) : Option (List String) :=
  if c.name = "system-information" then some (c.arguments.map (·.name))
  else if c.name ∈ ["report-power-status", "report-audio-status", "set-volume", "osd-display"] then
    match c.arguments with
    | [a] => some [a.name]
    | _ => none
  else none

/-- The marker of the line that reports a value, if there is such a line. -/
def marker? (c : SubCommand) (value : String) : Option String :=
  match c.name, value with
  | "report-power-status", _ => some "power status"
  | "report-audio-status", _ => some "mute"
  | "set-volume", _ => some "volume"
  | "osd-display", _ => some "OSD"
  | "system-information", "vendor-id" => some "vendor id"
  | "system-information", "version" => some "CEC version"
  | "system-information", "name" => some "OSD name"
  | "system-information", "language" => some "language"
  | "system-information", "is-active" => some "active"
  | _, _ => none

end SubCommand

/-- No line reports the value. -/
def Reply.Lacks (lines : List String) (c : SubCommand) (value : String) : Prop :=
  ∀ marker, c.marker? value = some marker → ∀ line ∈ lines, Line.contains marker line = false

/-- The data is about what was asked: the key of a setting, and the values of a sub-command in
order, empty where no line reports them. -/
def Data.Answers (data : Data) (lines : List String) : Payload → Prop
  | .getConfig key _ => ∃ value, data = .setting key value
  | .sendCommand _ _ _ c => ∀ names, c.asked? = some names → ∃ entries, data = .entries entries ∧
    entries.map (·.key) = names ∧ ∀ e ∈ entries, Reply.Lacks lines c e.key → e.value = ""
  | _ => True

namespace Reply

variable {lines : List String} {c : SubCommand}

theorem reported_eq_empty {marker : String} (read : String → String)
    (hnone : ∀ line ∈ lines, Line.contains marker line = false) :
    reported marker read lines = "" := by
  have hfind : Line.find? marker lines = none := by
    simpa [Line.find?, List.find?_eq_none] using hnone
  rw [reported, hfind]

theorem systemInformation_eq_empty (hname : c.name = "system-information") {value : String}
    (hlacks : Lacks lines c value) : systemInformation lines value = "" := by
  unfold systemInformation
  unfold Lacks SubCommand.marker? at hlacks
  rw [hname] at hlacks
  split <;> first | rfl | exact reported_eq_empty _ (hlacks _ rfl)

theorem sendCommand_systemInformation (hname : c.name = "system-information") :
    sendCommand c lines =
      .ok (c.arguments.map fun a => ⟨a.name, systemInformation lines a.name⟩) := by
  simp [sendCommand, hname]

/-- A sub-command that reports the value of its one argument reads it off the line with its
marker. -/
theorem sendCommand_single (lines : List String)
    (hname : c.name ∈ ["report-power-status", "report-audio-status", "set-volume", "osd-display"])
    {a : Argument} (harguments : c.arguments = [a]) :
    ∃ marker read, c.marker? a.name = some marker ∧
      sendCommand c lines = .ok [⟨a.name, reported marker read lines⟩] := by
  obtain ⟨name, arguments⟩ := c
  simp only [List.mem_cons, List.not_mem_nil, or_false] at hname harguments
  subst harguments
  obtain rfl | rfl | rfl | rfl := hname
  all_goals exact ⟨_, _, rfl, rfl⟩

theorem sendCommand_answers (lines : List String) {names : List String}
    (hasked : c.asked? = some names) :
    ∃ entries, sendCommand c lines = .ok entries ∧ entries.map (·.key) = names ∧
      ∀ e ∈ entries, Lacks lines c e.key → e.value = "" := by
  unfold SubCommand.asked? at hasked
  split at hasked
  · rename_i hname
    obtain rfl := Option.some_inj.mp hasked
    refine ⟨_, sendCommand_systemInformation hname, by simp, ?_⟩
    exact List.forall_mem_map.mpr fun a _ hlacks => systemInformation_eq_empty hname hlacks
  · split at hasked
    · rename_i hname
      split at hasked
      · rename_i a harguments
        obtain rfl := Option.some_inj.mp hasked
        obtain ⟨marker, read, hmarker, hsend⟩ := sendCommand_single lines hname harguments
        refine ⟨_, hsend, rfl, ?_⟩
        exact List.forall_mem_singleton.mpr fun hlacks => reported_eq_empty read (hlacks _ hmarker)
      · contradiction
    · contradiction

theorem interpret_of_ne_nil (hlines : lines ≠ []) (payload : Payload) :
    interpret payload lines = match payload with
      | .listAdapters => .success .listAdapters (.adapters (adapters lines))
      | .scan _ => .success .scan (.devices (devices lines))
      | .sendCommand _ _ _ c => ⟨.sendCommand, (sendCommand c lines).map .entries⟩
      | .getConfig key _ => .success .getConfig (.setting key (setting key lines))
      | .setConfig .. => .empty .setConfig := by
  refine (if_neg (by simpa using hlines)).trans ?_
  cases payload <;> rfl

end Reply

/-- A success answers the question, if the reply has lines; a reply without lines is a success
with the default data. -/
theorem replies_answer_the_question (payload : Payload) (lines : List String) :
    (lines = [] → Reply.interpret payload lines = .empty payload.kind) ∧
      ∀ data, lines ≠ [] → (Reply.interpret payload lines).outcome = .ok data →
        data.Answers lines payload := by
  refine ⟨fun hempty => by rw [hempty]; rfl, fun data hlines hdata => ?_⟩
  rw [Reply.interpret_of_ne_nil hlines] at hdata
  cases payload with
  | listAdapters | scan | setConfig => trivial
  | getConfig key adapter => exact ⟨_, (Except.ok.inj hdata).symm⟩
  | sendCommand adapter destination timeout c =>
      intro names hasked
      obtain ⟨entries, hsend, hkeys, hvalues⟩ := Reply.sendCommand_answers lines hasked
      simp only [hsend, Except.map] at hdata
      exact ⟨entries, (Except.ok.inj hdata).symm, hkeys, hvalues⟩

/-- Of two values that are asked for, the second is not reported. -/
theorem partial_reply_answers :
    let question : Payload := .sendCommand none "0" defaultTimeout
      ⟨"system-information", [⟨"version", none⟩, ⟨"vendor-id", none⟩]⟩
    let data : Data := .entries [⟨"version", "1.4"⟩, ⟨"vendor-id", ""⟩]
    (Reply.interpret question ["CEC version: 1.4"]).outcome = .ok data ∧
      data.Answers ["CEC version: 1.4"] question := by
  intro question data
  have hdata : (Reply.interpret question ["CEC version: 1.4"]).outcome = .ok data := by rfl
  exact ⟨hdata, (replies_answer_the_question question _).2 data (List.cons_ne_nil _ _) hdata⟩

/-- Silence answers no question: the setting comes back without its key. -/
theorem silence_answers_nothing :
    ¬∀ payload lines data, (Reply.interpret payload lines).outcome = .ok data →
      data.Answers lines payload := by
  intro hanswers
  obtain ⟨value, hvalue⟩ := hanswers (.getConfig "osd" none) [] (.setting "" "") rfl
  simp at hvalue

end CecGateway
