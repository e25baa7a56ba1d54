import CecGateway.Proofs.Answer
import CecGateway.Proofs.Traffic.Balance
import CecGateway.Proofs.Traffic.Runs

/-!
# Serving, step by step

The reader of a session, the worker and the writer at work side by side: the reader need not wait
for an answer before it reads on, calls of the handler take their own steps, and answers are written
in the order in which they arrive. A watcher for LG televisions hands every payload on as it is, so
all that matters of a chain is its generic handler.
-/

namespace CecGateway

/-- The answers of a session so far, each with the number of its request. -/
structure Ledger where
  /-- The requests under way, each with the identifier that its answer will carry. -/
  awaited : List (Nat × Option Json) := []
  answers : List (Nat × Answer) := []

namespace Ledger

def reject (l : Ledger) (number : Nat) (id : Option Json) : Ledger :=
  { l with answers := l.answers ++ [(number, .badInput id)] }

def await (l : Ledger) (number : Nat) (id : Option Json) : Ledger :=
  { l with awaited := l.awaited ++ [(number, id)] }

def complete (l : Ledger) (number : Nat) (result : Result) : Ledger :=
  match l.awaited.find? (·.1 = number) with
  | some (_, id) =>
    ⟨l.awaited.eraseP (·.1 = number), l.answers ++ [(number, .ofResult id result)]⟩
  | none => l

def deliver (l : Ledger) (completions : List (Nat × Result)) : Ledger :=
  completions.foldl (fun l c => l.complete c.1 c.2) l

end Ledger

structure Serving where
  /-- The generic handler, if the chain has one, and the calls of it. -/
  traffic? : Option Traffic
  /-- Whether the reader waits for the answer before it reads on. -/
  waits : Bool
  unread : List (List UInt8)
  /-- The lines that have been read and were not blank; a request is known by its place here. -/
  requests : List (List UInt8) := []
  rejected : Nat := 0
  ledger : Ledger := {}
  written : Nat := 0

namespace Serving

inductive Step
  | read
  /-- The reader's call of the handler, or the worker, goes on. -/
  | handler (step : Traffic.Step)
  | write

def start (handler? : Option Generic) (waits : Bool) (input : List UInt8) : Serving where
  traffic? := handler?.map fun handler => { handler }
  waits
  unread := splitLines input

/-- Whether the reader is still busy with an earlier line. -/
def isReading (s : Serving) : Bool :=
  s.traffic?.any (!·.callers.isEmpty) || (s.waits && !s.ledger.awaited.isEmpty)

def offer (s : Serving) (command : Command) : Serving :=
  match s.traffic? with
  | none =>
    { s with ledger := s.ledger.complete command.ticket (.failure command.payload.kind .unknown) }
  | some t =>
    let (t, events) := t.enter command
    { s with traffic? := some t, ledger := s.ledger.deliver (Event.completions events) }

def take (s : Serving) (line : List UInt8) : Serving :=
  if isBlankLine line then s
  else
    let number := s.requests.length + 1
    let s := { s with requests := s.requests ++ [line] }
    match Reading.ofLine line with
    | .rejected id => { s with rejected := s.rejected + 1, ledger := s.ledger.reject number id }
    | .command id payload =>
      { s with ledger := s.ledger.await number id }.offer ⟨number, payload⟩

def step (s : Serving) : Step → Option Serving
  | .read =>
    match s.unread with
    | [] => none
    | line :: unread => if s.isReading then none else some ({ s with unread }.take line)
  | .handler step =>
    match s.traffic? with
    | none => none
    | some t =>
      if step.isInternal then
        (t.step step).map fun (t, events) =>
          { s with traffic? := some t, ledger := s.ledger.deliver (Event.completions events) }
      else none
  | .write =>
    if s.written < s.ledger.answers.length then some { s with written := s.written + 1 } else none

/-- Takes steps; one that is not possible is left out. -/
def run (s : Serving) (steps : List Step) : Serving :=
  steps.foldl (fun s step => (s.step step).getD s) s

def output (s : Serving) : List String :=
  (s.ledger.answers.take s.written).map (·.2.render)

def isFinished (s : Serving) : Bool :=
  s.unread.isEmpty && s.ledger.awaited.isEmpty && s.written = s.ledger.answers.length

end Serving

/-! ## The ledger -/

namespace Ledger

variable {l : Ledger} {requests : List (List UInt8)} {waits : Bool}

/-- Every request is either answered, as it should be, or under way; while the reader waits, one at
most is under way, and the answers come in turn. -/
structure Sound (requests : List (List UInt8)) (waits : Bool) (l : Ledger) : Prop where
  numbers : (l.answers.map (·.1) ++ l.awaited.map (·.1)).Perm (List.range' 1 requests.length)
  answered : ∀ p ∈ l.answers, ∃ line, requests[p.1 - 1]? = some line ∧ p.2.Answers line
  awaiting : ∀ p ∈ l.awaited, ∃ line, requests[p.1 - 1]? = some line ∧
    isRejected line = false ∧ envelopeId line = p.2
  in_turn : waits = true → l.awaited.length ≤ 1 ∧
    l.answers.map (·.1) ++ l.awaited.map (·.1) = List.range' 1 requests.length

theorem exists_of_complete {number : Nat} (hmem : number ∈ l.awaited.map (·.1))
    (result : Result) :
    ∃ before id after, l.awaited = before ++ (number, id) :: after ∧
      l.complete number result =
        ⟨before ++ after, l.answers ++ [(number, .ofResult id result)]⟩ := by
  cases hfind : l.awaited.find? (·.1 = number) with
  | none =>
      obtain ⟨p, hp, rfl⟩ := List.mem_map.mp hmem
      exact absurd (List.find?_eq_none.mp hfind p hp) (by simp)
  | some p =>
      obtain ⟨rfl, before, after, hsplit, herase⟩ := exists_of_find?_key hfind
      exact ⟨before, p.2, after, hsplit, by simp only [complete, hfind, herase]⟩

theorem Sound.complete (hsound : l.Sound requests waits) {number : Nat}
    (hmem : number ∈ l.awaited.map (·.1)) {result : Result}
    (hresult : result.outcome ≠ .error .badInput) :
    (l.complete number result).Sound requests waits ∧
      (l.awaited.map (·.1)).Perm (number :: (l.complete number result).awaited.map (·.1)) := by
  obtain ⟨before, id, after, hsplit, hcomplete⟩ := exists_of_complete hmem result
  obtain ⟨hnumbers, hanswered, hawaiting, hturn⟩ := hsound
  rw [hsplit] at hnumbers hawaiting hturn
  rw [hcomplete, hsplit]
  refine ⟨⟨?_, ?_, fun p hp => hawaiting p ?_, fun hwaits => ?_⟩, ?_⟩
  · refine List.Perm.trans ?_ hnumbers
    rw [List.perm_iff_count]
    intro other
    simp [List.count_cons]
    omega
  · refine List.forall_mem_append.mpr ⟨hanswered, List.forall_mem_singleton.mpr ?_⟩
    obtain ⟨line, hline, haccepted, rfl⟩ := hawaiting (number, id) (by simp)
    exact ⟨line, hline, ofResult_answers haccepted hresult⟩
  · simp only [List.mem_append, List.mem_cons] at hp ⊢
    exact hp.imp_right .inr
  · obtain ⟨hlength, hnumbers⟩ := hturn hwaits
    obtain ⟨rfl, rfl⟩ : before = [] ∧ after = [] := by
      simp only [List.length_append, List.length_cons] at hlength
      exact ⟨List.length_eq_zero_iff.mp (by omega), List.length_eq_zero_iff.mp (by omega)⟩
    simpa using hnumbers
  · simp

theorem length_answers_le_complete (l : Ledger) (number : Nat) (result : Result) :
    l.answers.length ≤ (l.complete number result).answers.length := by
  unfold Ledger.complete
  split <;> simp

theorem length_answers_le_deliver (l : Ledger) (completions : List (Nat × Result)) :
    l.answers.length ≤ (l.deliver completions).answers.length := by
  induction completions generalizing l with
  | nil => exact Nat.le_refl _
  | cons c rest ih => exact Nat.le_trans (l.length_answers_le_complete c.1 c.2) (ih _)

/-- Results of requests under way become their answers. -/
theorem Sound.deliver {completions : List (Nat × Result)} {left : List Nat}
    (hsound : l.Sound requests waits)
    (hmem : (l.awaited.map (·.1)).Perm (completions.map (·.1) ++ left))
    (hresults : ∀ c ∈ completions, c.2.outcome ≠ .error .badInput) :
    (l.deliver completions).Sound requests waits ∧
      ((l.deliver completions).awaited.map (·.1)).Perm left := by
  induction completions generalizing l with
  | nil => exact ⟨hsound, hmem⟩
  | cons c rest ih =>
      obtain ⟨hresult, hresults⟩ := List.forall_mem_cons.mp hresults
      have hnumber : c.1 ∈ l.awaited.map (·.1) := hmem.mem_iff.mpr (by simp)
      obtain ⟨hcomplete, hperm⟩ := hsound.complete hnumber hresult
      exact ih hcomplete ((List.perm_cons c.1).mp (hperm.symm.trans hmem)) hresults

theorem getElem?_append_of_some {requests : List (List UInt8)} {i : Nat} {line : List UInt8}
    (hline : requests[i]? = some line) (later : List UInt8) :
    (requests ++ [later])[i]? = some line := by
  rw [List.getElem?_append_left (List.getElem?_eq_some_iff.mp hline).1, hline]

theorem Sound.reject (hsound : l.Sound requests waits) {line : List UInt8}
    (hrejected : isRejected line = true) (hturn : waits = true → l.awaited = []) :
    (l.reject (requests.length + 1) (envelopeId line)).Sound (requests ++ [line]) waits := by
  obtain ⟨hnumbers, hanswered, hawaiting, hinturn⟩ := hsound
  refine ⟨?_, List.forall_mem_append.mpr ⟨fun p hp => ?_, ?_⟩, fun p hp => ?_, fun hwaits => ?_⟩
  · rw [List.length_append, List.length_singleton, List.range'_1_concat]
    refine List.Perm.trans ?_ (hnumbers.append_right [1 + requests.length])
    rw [List.perm_iff_count]
    intro number
    simp [Ledger.reject, List.count_cons, Nat.add_comm]
  · obtain ⟨other, hother, hanswers⟩ := hanswered p hp
    exact ⟨other, getElem?_append_of_some hother line, hanswers⟩
  · exact List.forall_mem_singleton.mpr ⟨line, by simp, badInput_answers hrejected⟩
  · obtain ⟨other, hother, haccepted⟩ := hawaiting p hp
    exact ⟨other, getElem?_append_of_some hother line, haccepted⟩
  · have hnone := hturn hwaits
    obtain ⟨-, hnumbers⟩ := hinturn hwaits
    simp only [hnone, List.map_nil, List.append_nil] at hnumbers
    simp [Ledger.reject, hnone, hnumbers, List.range'_1_concat, Nat.add_comm]

theorem Sound.await (hsound : l.Sound requests waits) {line : List UInt8}
    (haccepted : isRejected line = false) (hturn : waits = true → l.awaited = []) :
    (l.await (requests.length + 1) (envelopeId line)).Sound (requests ++ [line]) waits := by
  obtain ⟨hnumbers, hanswered, hawaiting, hinturn⟩ := hsound
  refine ⟨?_, fun p hp => ?_, List.forall_mem_append.mpr ⟨fun p hp => ?_, ?_⟩, fun hwaits => ?_⟩
  · rw [List.length_append, List.length_singleton, List.range'_1_concat]
    refine List.Perm.trans ?_ (hnumbers.append_right [1 + requests.length])
    simp [Ledger.await, Nat.add_comm]
  · obtain ⟨other, hother, hanswers⟩ := hanswered p hp
    exact ⟨other, getElem?_append_of_some hother line, hanswers⟩
  · obtain ⟨other, hother, haccepted⟩ := hawaiting p hp
    exact ⟨other, getElem?_append_of_some hother line, haccepted⟩
  · exact List.forall_mem_singleton.mpr ⟨line, by simp, haccepted, rfl⟩
  · have hnone := hturn hwaits
    obtain ⟨-, hnumbers⟩ := hinturn hwaits
    simp only [hnone, List.map_nil, List.append_nil] at hnumbers
    simp [Ledger.await, hnone, hnumbers, List.range'_1_concat, Nat.add_comm]

end Ledger

/-! ## Sessions -/

/-- The commands on the lines that hold one, each with the number of its request. -/
def commandsOf (requests : List (List UInt8)) : List Command :=
  (requests.zipIdx 1).filterMap fun (line, number) =>
    match Reading.ofLine line with
    | .command _ payload => some ⟨number, payload⟩
    | .rejected _ => none

theorem commandsOf_append_rejected {requests : List (List UInt8)} {line : List UInt8}
    {id : Option Json} (hreading : Reading.ofLine line = .rejected id) :
    commandsOf (requests ++ [line]) = commandsOf requests := by
  simp [commandsOf, List.zipIdx_append, hreading]

theorem commandsOf_append_command {requests : List (List UInt8)} {line : List UInt8}
    {id : Option Json} {payload : Payload} (hreading : Reading.ofLine line = .command id payload) :
    commandsOf (requests ++ [line]) =
      commandsOf requests ++ [⟨requests.length + 1, payload⟩] := by
  simp [commandsOf, List.zipIdx_append, hreading, Nat.add_comm]

/-- The handler of a session has been offered just the commands of its lines, and what it has under
way is what the session waits for. -/
structure Traffic.Attends (requests : List (List UInt8)) (awaited : List (Nat × Option Json))
    (t : Traffic) : Prop where
  balanced : t.Balanced
  isLive : t.isDropped = false
  isOpen : t.handler.queue.isShut = false
  offered_eq : t.offered = commandsOf requests
  underway : (t.underway.map (·.ticket)).Perm (awaited.map (·.1))

/-- The results that a step brings are delivered, and the session still waits for the rest. -/
theorem Traffic.Attends.deliver {t next : Traffic} {s : Traffic.Step} {events : List Event}
    {requests earlier : List (List UInt8)} {awaited : List (Nat × Option Json)} {l : Ledger}
    {waits : Bool} (hattends : t.Attends earlier awaited) (heffect : t.Effect s next events)
    (hshut : s ≠ .shut) (habandon : s ≠ .abandon) (hsound : l.Sound requests waits)
    (hoffered : commandsOf requests = commandsOf earlier ++ s.offers)
    (hawaited : (l.awaited.map (·.1)).Perm ((t.underway ++ s.offers).map (·.ticket))) :
    (l.deliver (Event.completions events)).Sound requests waits ∧
      next.Attends requests (l.deliver (Event.completions events)).awaited := by
  obtain ⟨hbalanced, hlive, hopen, hoffers, -⟩ := hattends
  obtain ⟨hdropped, hshut⟩ := heffect.stays_open hshut habandon
  obtain ⟨hdelivered, hleft⟩ := hsound.deliver (hawaited.trans heffect.conserves.symm)
    heffect.completions_ne_badInput
  refine ⟨hdelivered, heffect.balanced hbalanced, hdropped.trans hlive, hshut.trans hopen, ?_,
    hleft.symm⟩
  rw [heffect.offered, hoffers, hoffered]

namespace Serving

variable {s next : Serving} {lines : List (List UInt8)}

structure Sound (lines : List (List UInt8)) (s : Serving) : Prop where
  requests_eq : s.requests ++ s.unread.filter (!isBlankLine ·) = lines
  rejected_eq : s.rejected = s.requests.countP isRejected
  ledger : s.ledger.Sound s.requests s.waits
  written_le : s.written ≤ s.ledger.answers.length
  idle : s.traffic? = none → s.ledger.awaited = []
  attends : ∀ t, s.traffic? = some t → t.Attends s.requests s.ledger.awaited

theorem awaited_eq_nil_of_not_isReading (hreading : s.isReading = false) (hwaits : s.waits = true) :
    s.ledger.awaited = [] := by
  simp only [isReading, Bool.or_eq_false_iff, Bool.and_eq_false_iff] at hreading
  simpa [hwaits] using hreading.2

theorem offer_of_none (htraffic : s.traffic? = none) (command : Command) :
    s.offer command = { s with
      ledger := s.ledger.complete command.ticket (.failure command.payload.kind .unknown) } := by
  simp only [Serving.offer, htraffic]

theorem offer_of_some {t : Traffic} (htraffic : s.traffic? = some t) (command : Command) :
    s.offer command = { s with
      traffic? := some (t.enter command).1
      ledger := s.ledger.deliver (Event.completions (t.enter command).2) } := by
  simp only [Serving.offer, htraffic]

theorem Sound.offer (hsound : s.Sound lines) {line : List UInt8} {unread : List (List UInt8)}
    {payload : Payload} (hunread : s.unread = line :: unread) (hblank : isBlankLine line = false)
    (hreading : s.isReading = false)
    (hline : Reading.ofLine line = .command (envelopeId line) payload) :
    ({ s with
      unread
      requests := s.requests ++ [line]
      ledger := s.ledger.await (s.requests.length + 1) (envelopeId line) }.offer
        ⟨s.requests.length + 1, payload⟩).Sound lines := by
  obtain ⟨hrequests, hrejected, hledger, hwritten, hidle, hattends⟩ := hsound
  obtain ⟨-, haccepted⟩ := reading_of_command hline
  have hawait := hledger.await haccepted (awaited_eq_nil_of_not_isReading hreading)
  have hcount : s.rejected = (s.requests ++ [line]).countP isRejected := by
    simp [hrejected, haccepted]
  have hlines : s.requests ++ [line] ++ unread.filter (!isBlankLine ·) = lines := by
    simpa [hunread, hblank] using hrequests
  let l := s.ledger.await (s.requests.length + 1) (envelopeId line)
  have hlength : s.written ≤ l.answers.length := hwritten
  cases htraffic : s.traffic? with
  | none =>
      have hnone := hidle htraffic
      rw [offer_of_none rfl]
      have hmem : s.requests.length + 1 ∈ l.awaited.map (·.1) := by simp [l, Ledger.await]
      have hresult : (Result.failure payload.kind .unknown).outcome ≠ .error .badInput := by
        simp [Result.failure]
      obtain ⟨hcomplete, hperm⟩ := hawait.complete hmem hresult
      refine ⟨hlines, hcount, hcomplete, ?_, fun _ => ?_, by simp⟩
      · exact Nat.le_trans hlength (l.length_answers_le_complete _ _)
      · simpa [Ledger.await, hnone] using hperm
  | some t =>
      have heffect := Traffic.enter_effect t ⟨s.requests.length + 1, payload⟩
      have hattend := hattends t htraffic
      obtain ⟨hdelivered, hattends⟩ := hattend.deliver heffect (by simp) (by simp) hawait
        (commandsOf_append_command hline) (by
          simpa [Ledger.await, Traffic.Step.offers] using hattend.underway.symm.append_right _)
      rw [offer_of_some rfl]
      refine ⟨hlines, hcount, hdelivered, ?_, by simp, fun next hnext => ?_⟩
      · exact Nat.le_trans hlength (l.length_answers_le_deliver _)
      · obtain rfl := Option.some_inj.mp hnext
        exact hattends

theorem Sound.take (hsound : s.Sound lines) {line : List UInt8} {unread : List (List UInt8)}
    (hunread : s.unread = line :: unread) (hreading : s.isReading = false) :
    ({ s with unread }.take line).Sound lines := by
  have hawaited := awaited_eq_nil_of_not_isReading hreading
  by_cases hblank : isBlankLine line = true
  · obtain ⟨hrequests, hrejected, hledger, hwritten, hidle, hattends⟩ := hsound
    rw [hunread, List.filter_cons_of_neg (by simp [hblank])] at hrequests
    rw [Serving.take, if_pos hblank]
    exact ⟨hrequests, hrejected, hledger, hwritten, hidle, hattends⟩
  rw [Serving.take, if_neg hblank]
  cases hline : Reading.ofLine line with
  | rejected id =>
      obtain ⟨rfl, hreject⟩ := reading_of_rejected hline
      obtain ⟨hrequests, hrejected, hledger, hwritten, hidle, hattends⟩ := hsound
      refine ⟨?_, ?_, hledger.reject hreject hawaited, ?_, hidle, fun t ht => ?_⟩
      · simpa [hunread, hblank] using hrequests
      · simp [hrejected, hreject]
      · simp [Ledger.reject]
        omega
      · obtain ⟨hbalanced, hlive, hopen, hoffered, hunderway⟩ := hattends t ht
        refine ⟨hbalanced, hlive, hopen, ?_, hunderway⟩
        rw [hoffered, commandsOf_append_rejected hline]
  | command id payload =>
      obtain ⟨rfl, -⟩ := reading_of_command hline
      exact hsound.offer hunread (by simpa using hblank) hreading hline

theorem Sound.handler (hsound : s.Sound lines) {t after : Traffic} {step : Traffic.Step}
    {events : List Event} (ht : s.traffic? = some t) (hinternal : step.isInternal = true)
    (hstep : t.step step = some (after, events)) :
    ({ s with
      traffic? := some after
      ledger := s.ledger.deliver (Event.completions events) } : Serving).Sound lines := by
  obtain ⟨hrequests, hrejected, hledger, hwritten, hidle, hattends⟩ := hsound
  have hattend := hattends t ht
  have hoffers : step.offers = [] := by cases step <;> first | rfl | contradiction
  obtain ⟨hdelivered, hattends⟩ := hattend.deliver (Traffic.effect_of_step hstep)
    (by rintro rfl; contradiction) (by rintro rfl; contradiction) hledger (by simp [hoffers])
    (by simpa [hoffers] using hattend.underway.symm)
  refine ⟨hrequests, hrejected, hdelivered, ?_, by simp, fun next hnext => ?_⟩
  · exact Nat.le_trans hwritten (Ledger.length_answers_le_deliver _ _)
  · obtain rfl := Option.some_inj.mp hnext
    exact hattends

/-- All that a step can do. -/
inductive Effect (s : Serving) : Serving → Prop
  | read {line : List UInt8} {unread : List (List UInt8)} (hunread : s.unread = line :: unread)
      (hreading : s.isReading = false) : Effect s ({ s with unread }.take line)
  | handler {t after : Traffic} {step : Traffic.Step} {events : List Event}
      (ht : s.traffic? = some t) (hinternal : step.isInternal = true)
      (hstep : t.step step = some (after, events)) :
      Effect s { s with
        traffic? := some after
        ledger := s.ledger.deliver (Event.completions events) }
  | write (hunwritten : s.written < s.ledger.answers.length) :
      Effect s { s with written := s.written + 1 }

theorem effect_of_step {step : Step} (hstep : s.step step = some next) : s.Effect next := by
  cases step with
  | read =>
      simp only [Serving.step] at hstep
      split at hstep
      · contradiction
      · rename_i line unread hunread
        split at hstep
        · contradiction
        · rename_i hreading
          obtain rfl := Option.some_inj.mp hstep
          exact .read hunread (by simpa using hreading)
  | handler step =>
      simp only [Serving.step] at hstep
      split at hstep
      · contradiction
      · rename_i t ht
        split at hstep
        · rename_i hinternal
          obtain ⟨⟨after, events⟩, htraffic, rfl⟩ := Option.map_eq_some_iff.mp hstep
          exact .handler ht hinternal htraffic
        · contradiction
  | write =>
      simp only [Serving.step] at hstep
      split at hstep
      · rename_i hunwritten
        obtain rfl := Option.some_inj.mp hstep
        exact .write hunwritten
      · contradiction

theorem Effect.sound (h : s.Effect next) (hsound : s.Sound lines) : next.Sound lines := by
  cases h with
  | read hunread hreading => exact hsound.take hunread hreading
  | handler ht hinternal hstep => exact hsound.handler ht hinternal hstep
  | write hunwritten =>
      obtain ⟨hrequests, hrejected, hledger, -, hidle, hattends⟩ := hsound
      exact ⟨hrequests, hrejected, hledger, hunwritten, hidle, hattends⟩

end Serving

end CecGateway
