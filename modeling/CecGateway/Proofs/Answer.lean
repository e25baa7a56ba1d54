import CecGateway.Proofs.Acceptance
import CecGateway.Proofs.Traffic
import CecGateway.Session

/-!
# Answers to lines

What an answer owes to the line that it answers: the identifier of its envelope, and code 1 just if
the line holds no command. Whatever an answer says, it is written as one line.
-/

namespace CecGateway

/-! ## Texts without newlines -/

theorem newline_not_mem_digits (n : Nat) : '\n' ∉ Decimal.digits n := by
  intro hmem
  have hdigit := Nat.isDigit_of_mem_toDigits (by decide) (by decide) hmem
  contradiction

theorem newline_not_mem_intDigits (n : Int) : '\n' ∉ Decimal.intDigits n := by
  unfold Decimal.intDigits
  split <;> simp [newline_not_mem_digits]

theorem Shortest.newline_not_mem_text (d : Shortest) : '\n' ∉ d.text := by
  have hdigits := newline_not_mem_digits d.digits
  have htake (count : Nat) : '\n' ∉ (Decimal.digits d.digits).take count :=
    fun hmem => hdigits (List.mem_of_mem_take hmem)
  have hdrop (count : Nat) : '\n' ∉ (Decimal.digits d.digits).drop count :=
    fun hmem => hdigits (List.mem_of_mem_drop hmem)
  unfold Shortest.text
  dsimp only
  split
  · simp [hdigits, List.mem_replicate]
  · split
    · simp [htake, hdrop]
    · split
      · simp [hdigits, List.mem_replicate]
      · have htail : '\n' ∉ (Decimal.digits d.digits).tail :=
          fun hmem => hdigits (List.mem_of_mem_tail hmem)
        simp only [List.mem_append, List.mem_cons, newline_not_mem_digits, htake]
        split <;> split <;> simp [htail]

theorem Binary64.newline_not_mem_text (x : Binary64) : '\n' ∉ x.text := by
  unfold Binary64.text
  dsimp only
  split <;> split <;> simp [Shortest.newline_not_mem_text]

namespace Json

theorem newline_not_mem_escape (c : Char) : '\n' ∉ escape c := by
  unfold escape
  by_cases hnewline : c = '\n'
  · simp [hnewline]
  have hdigit (n : Nat) (hn : n < 16) : '\n' ≠ hexDigit n := by
    revert n
    decide
  have hlow := hdigit (c.toNat % 16) (Nat.mod_lt _ (by decide))
  repeat' split
  all_goals simp [Ne.symm hnewline, hlow]
  exact hdigit (c.toNat / 16) (by omega)

theorem newline_not_mem_quote (s : String) : '\n' ∉ quote s := by
  simp [quote, newline_not_mem_escape]

theorem newline_not_mem_commaSeparated {texts : List (List Char)}
    (htexts : ∀ text ∈ texts, '\n' ∉ text) : '\n' ∉ commaSeparated texts := by
  induction texts with
  | nil => simp [commaSeparated]
  | cons text rest ih =>
      obtain ⟨htext, hrest⟩ := List.forall_mem_cons.mp htexts
      cases rest with
      | nil => exact htext
      | cons next rest => simp [commaSeparated, htext, ih hrest]

mutual

theorem newline_not_mem_chars : ∀ value : Json, '\n' ∉ value.chars
  | .null | .bool true | .bool false => by decide
  | .int n => by simpa [chars] using newline_not_mem_intDigits n
  | .real x => by simpa [chars] using x.newline_not_mem_text
  | .str s => by simpa [chars] using newline_not_mem_quote s
  | .arr items => by
      have hitems := newline_not_mem_commaSeparated (newline_not_mem_itemTexts items)
      simp [chars, hitems]
  | .obj members => by
      have hmembers := newline_not_mem_commaSeparated (newline_not_mem_memberTexts members)
      simp [chars, hmembers]

theorem newline_not_mem_itemTexts : ∀ items : List Json, ∀ text ∈ itemTexts items, '\n' ∉ text
  | [] => by simp [itemTexts]
  | item :: rest => by
      rw [itemTexts]
      exact List.forall_mem_cons.mpr
        ⟨newline_not_mem_chars item, newline_not_mem_itemTexts rest⟩

theorem newline_not_mem_memberTexts :
    ∀ members : List (String × Json), ∀ text ∈ memberTexts members, '\n' ∉ text
  | [] => by simp [memberTexts]
  | (key, value) :: rest => by
      have hvalue := newline_not_mem_chars value
      have hkey := newline_not_mem_quote key
      rw [memberTexts]
      exact List.forall_mem_cons.mpr
        ⟨by simp [hkey, hvalue], newline_not_mem_memberTexts rest⟩

end

end Json

theorem Answer.newline_not_mem_render (a : Answer) : '\n' ∉ a.render.toList := by
  simpa [Answer.render, Json.render] using (Json.obj a.members).newline_not_mem_chars

/-! ## What an answer says -/

theorem Answer.member?_id (a : Answer) : (Json.obj a.members).member? "id" = a.id := by
  obtain ⟨id, outcome⟩ := a
  cases id with
  | some id => rfl
  | none =>
      cases outcome with
      | ok data => cases data <;> rfl
      | error reason => rfl

theorem Answer.member?_errorCode (a : Answer) :
    (Json.obj a.members).member? "errorCode" =
      match a.outcome with
      | .ok _ => none
      | .error reason => some (.int reason.code) := by
  obtain ⟨id, outcome⟩ := a
  cases id <;> cases outcome with
  | ok data => cases data <;> rfl
  | error reason => rfl

/-! ## What an answer owes to its line -/

def envelopeId (line : List UInt8) : Option Json :=
  match Request.parse line with
  | .ok request => request.id
  | .error _ => none

def isRejected (line : List UInt8) : Bool :=
  match Request.parse line with
  | .ok request => !request.payload.isOk
  | .error _ => true

/-- An answer to a line carries its identifier, and has code 1 just if the line holds no command. -/
structure Answer.Answers (a : Answer) (line : List UInt8) : Prop where
  id_eq : (Json.obj a.members).member? "id" = envelopeId line
  code_eq_iff : (Json.obj a.members).member? "errorCode" = some (.int 1) ↔ isRejected line = true

theorem reading_of_rejected {line : List UInt8} {id : Option Json}
    (hreading : Reading.ofLine line = .rejected id) :
    envelopeId line = id ∧ isRejected line = true := by
  unfold Reading.ofLine at hreading
  unfold envelopeId isRejected
  cases hparse : Request.parse line with
  | error reason => simpa [hparse] using hreading
  | ok request =>
      cases hpayload : request.payload with
      | error reason => simpa [hparse, hpayload, Except.isOk, Except.toBool] using hreading
      | ok payload => simp [hparse, hpayload] at hreading

theorem reading_of_command {line : List UInt8} {id : Option Json} {payload : Payload}
    (hreading : Reading.ofLine line = .command id payload) :
    envelopeId line = id ∧ isRejected line = false := by
  unfold Reading.ofLine at hreading
  unfold envelopeId isRejected
  cases hparse : Request.parse line with
  | error reason => simp [hparse] at hreading
  | ok request =>
      cases hpayload : request.payload with
      | error reason => simp [hparse, hpayload] at hreading
      | ok payload =>
          simp only [hparse, hpayload, Reading.command.injEq] at hreading
          simp [hpayload, hreading.1, Except.isOk, Except.toBool]

theorem badInput_answers {line : List UInt8} (hrejected : isRejected line = true) :
    (Answer.badInput (envelopeId line)).Answers line where
  id_eq := Answer.member?_id _
  code_eq_iff := by simp [hrejected, Answer.member?_errorCode, Answer.badInput, Answer.failure,
    Failure.code]

theorem ofResult_answers {line : List UInt8} {result : Result}
    (haccepted : isRejected line = false) (hresult : result.outcome ≠ .error .badInput) :
    (Answer.ofResult (envelopeId line) result).Answers line where
  id_eq := Answer.member?_id _
  code_eq_iff := by
    simp only [haccepted, Bool.false_eq_true, iff_false, Answer.member?_errorCode]
    intro hcode
    cases houtcome : result.outcome with
    | ok data => simp [Answer.ofResult, houtcome] at hcode
    | error reason =>
        simp only [Answer.ofResult, houtcome, Option.some_inj, Json.int.injEq] at hcode
        have hreason : reason = .badInput := Failure.code_injective (Int.ofNat_inj.mp hcode)
        exact hresult (by rw [houtcome, hreason])

/-! ## What a failure tells -/

namespace Generic

variable {g : Generic} {payload : Payload} {p : Pending} {outcome : Outcome} {why : Failure}

theorem eq_of_checkLimits {defaultAdapter : String}
    (h : checkLimits defaultAdapter payload = .error why) : why = .invalidParameters := by
  unfold checkLimits at h
  split at h
  · contradiction
  · rename_i fault hnative
    rw [← Except.error.inj h]
    exact (Message.enforces_toNative _).failure_eq hnative

theorem objection_of_checkContent {r : Registry} (h : checkContent r payload = .error why) :
    why ∈ [.invalidDestination, .invalidCommand, .invalidParameters] := by
  rw [checkContent_eq] at h
  split_ifs at h <;> simp [← Except.error.inj h]

theorem cases_of_validate (h : g.validate payload = .error why) :
    why = .invalidAdapter ∨ checkContent g.registry payload = .error why ∨
      why = .invalidParameters := by
  rw [validate, checkAdapter_eq] at h
  by_cases hadapter : payload.NamesUnknownAdapter g.registry
  · rw [if_pos hadapter] at h
    exact .inl (Except.error.inj h).symm
  rw [if_neg hadapter] at h
  cases hcontent : checkContent g.registry payload with
  | error reason =>
      rw [hcontent] at h
      obtain rfl : reason = why := Except.error.inj h
      exact .inr (.inl rfl)
  | ok =>
      rw [hcontent] at h
      exact .inr (.inr (eq_of_checkLimits h))

/-- Validation objects to what the client has named or written, -/
theorem objection_of_validate (h : g.validate payload = .error why) :
    why ∈ [.invalidAdapter, .invalidDestination, .invalidCommand, .invalidParameters] := by
  obtain rfl | hcontent | rfl := cases_of_validate h
  · decide
  · exact List.mem_cons_of_mem _ (objection_of_checkContent hcontent)
  · decide

theorem eq_of_sendCommand {command : SubCommand} {lines : List String}
    (h : Reply.sendCommand command lines = .error why) : why = .hardwareUnavailable := by
  have hstatus : Reply.status lines = .error why := by
    unfold Reply.sendCommand at h
    split at h <;> first | exact h | contradiction
  unfold Reply.status at hstatus
  split at hstatus
  · contradiction
  · dsimp only at hstatus
    split_ifs at hstatus
    exact (Except.error.inj hstatus).symm

theorem eq_of_interpret {lines : List String}
    (h : (Reply.interpret payload lines).outcome = .error why) : why = .hardwareUnavailable := by
  unfold Reply.interpret at h
  split at h
  · contradiction
  cases payload with
  | sendCommand adapter destination timeout command =>
      cases hreply : Reply.sendCommand command lines with
      | ok entries => simp [hreply, Except.map] at h
      | error reason =>
          simp only [hreply, Except.map, Except.error.injEq] at h
          rw [← h]
          exact eq_of_sendCommand hreply
  | listAdapters | scan | getConfig | setConfig => contradiction

/-- and what goes wrong after it is for the hardware to answer for, unless it speaks of a limit. -/
theorem failure_of_resultOf (h : (resultOf p outcome).outcome = .error why) :
    why = .hardwareUnavailable ∨
      why = .invalidParameters ∧ ∃ field message, outcome = .failed (.limitExceeded field message)
    := by
  cases outcome with
  | lines lines => exact .inl (eq_of_interpret h)
  | notImplemented => exact .inl (Except.error.inj h).symm
  | failed fault =>
      obtain rfl : fault.failure = why := Except.error.inj h
      cases fault with
      | limitExceeded field message => exact .inr ⟨rfl, field, message, rfl⟩
      | _ => exact .inl rfl

theorem exists_lines_of_resultOf {data : Data} (h : (resultOf p outcome).outcome = .ok data) :
    ∃ lines, outcome = .lines lines := by
  cases outcome with
  | lines lines => exact ⟨lines, rfl⟩
  | notImplemented => contradiction
  | failed fault => contradiction

end Generic

theorem Traffic.Effect.completions_ne_badInput {t next : Traffic} {s : Step} {events : List Event}
    (h : t.Effect s next events) :
    ∀ c ∈ Event.completions events, c.2.outcome ≠ .error .badInput := by
  cases h with
  | @rejected command why hinvalid =>
      have hwhy : why ≠ .badInput := by
        rintro rfl
        simpa using Generic.objection_of_validate hinvalid
      simpa [Generic.fail, Result.failure] using hwhy
  | answered hworker hpending hresult =>
      simp only [Event.completions_append, Generic.completions_apply, List.nil_append,
        Event.completions_completed, List.forall_mem_singleton, hresult]
      intro hbad
      simpa using Generic.failure_of_resultOf hbad
  | abandoned hworker =>
      rintro ⟨ticket, result⟩ hmem
      simp only [Event.completions, Generic.fail, List.filterMap_map, List.mem_filterMap] at hmem
      obtain ⟨p, -, heq⟩ := hmem
      simp only [Function.comp_apply, Option.some_inj, Prod.mk.injEq] at heq
      rw [← heq.2]
      simp [Result.failure]
  | refused hcallers hshut hpending => simp [Generic.fail, Result.failure]
  | started hworker hopening => simp [Event.completions]
  | popped hworker hwaiting hopen hgiven => simp
  | stopped hworker hshut hcalls => simp
  | entered | numbered | recorded | submitted | bereft | subscribed | unmatched | closed => simp

end CecGateway
