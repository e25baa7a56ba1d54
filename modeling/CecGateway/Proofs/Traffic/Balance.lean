import CecGateway.Proofs.Traffic
import Mathlib.Data.List.Perm.Subperm

/-!
# Nothing is lost and nothing is doubled

Two balances of a handler under way, whatever its sequence numbers are. Every command that has been
offered is either completed, or in the hands of a call, or pending, and only one of these. And as
long as the handler is not dropped, the pending commands have just the numbers of the messages that
are held by the queue or about to be submitted, so no reply comes to nothing.
-/

namespace CecGateway

/-- The messages that the worker has not answered, in the order in which it answers them. -/
def Queue.held (q : Queue) : List Message :=
  match q.worker with
  | .busy _ message => message :: q.waiting
  | _ => q.waiting

theorem Queue.held_append (q : Queue) (message : Message) :
    ({ q with waiting := q.waiting ++ [message] } : Queue).held = q.held ++ [message] := by
  unfold held
  cases q.worker <;> rfl

/-- An open queue whose worker waits has no message. -/
theorem Queue.idle_of_due {hardware : Hardware} {q : Queue} (hdue : q.due hardware false = none)
    (hopen : q.isShut = false) (hrunning : q.worker ≠ .stopped) :
    ∃ fault?, q.worker = .idle fault? ∧ q.waiting = [] := by
  unfold due at hdue
  cases hworker : q.worker <;> simp [hworker, hopen] at hdue hrunning
  exact ⟨_, rfl, hdue⟩

/-- The command of a call, until the call has recorded it. -/
def Caller.inHand (c : Caller) : List Command :=
  match c.progress with
  | .recorded _ => []
  | _ => [c.command]

/-- The number under which a call has recorded its command. -/
def Caller.recordedSeqs (c : Caller) : List Nat :=
  match c.progress with
  | .recorded seq => [seq]
  | _ => []

section

variable (command : Command) (seq : Nat)

@[simp]
theorem Caller.inHand_validated : (⟨command, .validated⟩ : Caller).inHand = [command] := rfl

@[simp]
theorem Caller.inHand_numbered : (⟨command, .numbered seq⟩ : Caller).inHand = [command] := rfl

@[simp]
theorem Caller.inHand_recorded : (⟨command, .recorded seq⟩ : Caller).inHand = [] := rfl

@[simp]
theorem Caller.recordedSeqs_validated : (⟨command, .validated⟩ : Caller).recordedSeqs = [] := rfl

@[simp]
theorem Caller.recordedSeqs_numbered :
    (⟨command, .numbered seq⟩ : Caller).recordedSeqs = [] := rfl

@[simp]
theorem Caller.recordedSeqs_recorded :
    (⟨command, .recorded seq⟩ : Caller).recordedSeqs = [seq] := rfl

end

/-- The first item with a key is the one that is erased. -/
theorem exists_of_find?_key {α : Type} {items : List α} {key : α → Nat} {k : Nat} {item : α}
    (hfind : items.find? (key · = k) = some item) :
    key item = k ∧ ∃ before after, items = before ++ item :: after ∧
      items.eraseP (key · = k) = before ++ after := by
  obtain ⟨hkey, before, after, hsplit, hbefore⟩ := List.find?_eq_some_iff_append.mp hfind
  have hkey : key item = k := by simpa using hkey
  have hnot : ∀ other ∈ before, ¬ decide (key other = k) = true := by simpa using hbefore
  refine ⟨hkey, before, after, hsplit, ?_⟩
  rw [hsplit, List.eraseP_append_right _ hnot, List.eraseP_cons_of_pos (by simpa using hkey)]

theorem Generic.exists_of_pending? {g : Generic} {seq : Nat} {p : Pending}
    (hpending : g.pending? seq = some p) :
    p.seq = seq ∧ ∃ before after, g.pending = before ++ p :: after ∧
      (g.forget seq).pending = before ++ after :=
  exists_of_find?_key hpending

theorem Generic.not_mem_of_pending?_eq_none {g : Generic} {seq : Nat}
    (hpending : g.pending? seq = none) : seq ∉ g.pending.map (·.seq) := by
  simpa [Generic.pending?, List.find?_eq_none] using hpending

namespace Traffic

/-- The commands that have been offered and not completed. -/
def underway (t : Traffic) : List Command :=
  t.callers.flatMap (·.inHand) ++ t.handler.pending.map (·.command)

def recordedSeqs (t : Traffic) : List Nat := t.callers.flatMap (·.recordedSeqs)

/-- The numbers that must be found pending. -/
def owing (t : Traffic) : List Nat := t.recordedSeqs ++ t.handler.queue.held.map (·.seq)

def Step.offers : Step → List Command
  | .offer command => [command]
  | _ => []

variable {t next : Traffic} {s : Step} {events : List Event}

/-! ### Commands -/

theorem Effect.offered (h : t.Effect s next events) :
    next.offered = t.offered ++ s.offers := by
  cases h <;> simp [Step.offers, withQueue]

/-- A step moves commands from those under way to those completed. -/
theorem Effect.conserves (h : t.Effect s next events) :
    ((Event.completions events).map (·.1) ++ next.underway.map (·.ticket)).Perm
      ((t.underway ++ s.offers).map (·.ticket)) := by
  rw [List.perm_iff_count]
  intro ticket
  cases h with
  | rejected hinvalid =>
      simp [Generic.fail, underway, Step.offers, List.count_cons]
      omega
  | entered hvalid =>
      simp [underway, Step.offers, List.count_cons]
  | numbered hcallers =>
      simp [underway, hcallers, Step.offers, Generic.allocate]
  | recorded hcallers =>
      simp [underway, hcallers, Step.offers, Generic.record, List.count_cons]
      omega
  | submitted hcallers hopen =>
      simp [underway, hcallers, Step.offers, withQueue]
  | refused hcallers hshut hpending =>
      obtain ⟨-, before, after, hsplit, hforget⟩ := Generic.exists_of_pending? hpending
      simp [underway, hcallers, hsplit, hforget, Step.offers, Generic.fail,
        List.count_cons]
      omega
  | bereft hcallers hshut hpending =>
      simp [underway, hcallers, Step.offers]
  | subscribed => simp [underway, Step.offers, Generic.subscribe]
  | started hworker hopening => simp [underway, Step.offers, withQueue, Event.completions]
  | popped hworker hwaiting hopen hgiven => simp [underway, Step.offers, withQueue]
  | @answered fault? message answer p result hworker hpending hresult =>
      obtain ⟨-, before, after, hsplit, hforget⟩ := Generic.exists_of_pending? hpending
      have hafter : ((t.afterwards fault?).forget message.seq).pending = before ++ after := hforget
      simp [underway, hsplit, hafter, Step.offers, List.count_cons]
      omega
  | unmatched hworker hpending => simp [underway, Step.offers, afterwards]
  | stopped hworker hshut hcalls => simp [underway, Step.offers, withQueue]
  | closed => simp [underway, Step.offers, withQueue]
  | abandoned hworker =>
      simp [underway, Step.offers, Generic.fail, Event.completions, Function.comp_def]
      omega

theorem Effect.stays_open (h : t.Effect s next events) (hshut : s ≠ .shut)
    (habandon : s ≠ .abandon) :
    next.isDropped = t.isDropped ∧ next.handler.queue.isShut = t.handler.queue.isShut := by
  cases h <;> first | contradiction | simp [Generic.allocate, Generic.record, Generic.subscribe,
    withQueue]

/-! ### Numbers -/

/-- How often a number is pending. A handler that is dropped has lost the records of the calls that
were under way, but not of those that recorded since. -/
structure Balanced (t : Traffic) : Prop where
  isShut_of_stopped : t.handler.queue.worker = .stopped → t.handler.queue.isShut = true
  stopped_of_isDropped : t.isDropped = true → t.handler.queue.worker = .stopped
  count_eq : t.isDropped = false →
    ∀ seq, (t.handler.pending.map (·.seq)).count seq = t.owing.count seq
  count_le : t.isDropped = true →
    ∀ seq, (t.handler.pending.map (·.seq)).count seq ≤ t.recordedSeqs.count seq

theorem Balanced.isShut_of_isDropped (h : t.Balanced) (hdropped : t.isDropped = true) :
    t.handler.queue.isShut = true :=
  h.isShut_of_stopped (h.stopped_of_isDropped hdropped)

theorem Balanced.isDropped_eq_false (h : t.Balanced) (hworker : t.handler.queue.worker ≠ .stopped) :
    t.isDropped = false := by
  rw [Bool.eq_false_iff]
  exact fun hdropped => hworker (h.stopped_of_isDropped hdropped)

/-- A reply finds a pending command. -/
theorem Balanced.exists_pending (h : t.Balanced) {fault? : Option Fault} {message : Message}
    (hworker : t.handler.queue.worker = .busy fault? message) :
    ∃ p, t.handler.pending? message.seq = some p := by
  have hcount := h.count_eq (h.isDropped_eq_false (by simp [hworker])) message.seq
  have hmem : message.seq ∈ t.handler.pending.map (·.seq) := by
    rw [← List.count_pos_iff, hcount, List.count_pos_iff]
    simp [owing, Queue.held, hworker]
  cases hpending : t.handler.pending? message.seq with
  | none => exact absurd hmem (Generic.not_mem_of_pending?_eq_none hpending)
  | some p => exact ⟨p, rfl⟩

theorem balanced_begin (handler : Generic) (hpending : handler.pending = [])
    (hwaiting : handler.queue.waiting = []) (hworker : handler.queue.worker = .starting) :
    Balanced { handler } where
  isShut_of_stopped h := by simp [hworker] at h
  stopped_of_isDropped h := by simp at h
  count_eq _ := by simp [owing, recordedSeqs, Queue.held, hpending, hwaiting, hworker]
  count_le h := by simp at h

theorem Effect.balanced (h : t.Effect s next events) (hbalanced : t.Balanced) :
    next.Balanced := by
  have hlive := hbalanced.isDropped_eq_false
  have hreply := @hbalanced.exists_pending
  obtain ⟨hstopped, hdropped, heq, hle⟩ := hbalanced
  cases h with
  | rejected hinvalid => exact ⟨hstopped, hdropped, heq, hle⟩
  | entered hvalid =>
      refine ⟨hstopped, hdropped, fun hlive seq => ?_, fun hdead seq => ?_⟩
      · simpa [owing, recordedSeqs] using heq hlive seq
      · simpa [recordedSeqs] using hle hdead seq
  | numbered hcallers =>
      refine ⟨hstopped, hdropped, fun hlive seq => ?_, fun hdead seq => ?_⟩
      · simpa [owing, recordedSeqs, hcallers, Generic.allocate]
          using heq hlive seq
      · simpa [recordedSeqs, hcallers, Generic.allocate] using hle hdead seq
  | recorded hcallers =>
      refine ⟨hstopped, hdropped, fun hlive seq => ?_, fun hdead seq => ?_⟩
      · have hcount := heq hlive seq
        simp [owing, recordedSeqs, hcallers] at hcount
        simp [owing, recordedSeqs, Generic.record, List.count_cons, hcount]
        omega
      · have hcount := hle hdead seq
        simp [recordedSeqs, hcallers] at hcount
        simp [recordedSeqs, Generic.record, List.count_cons]
        omega
  | submitted hcallers hopen =>
      refine ⟨hstopped, hdropped, fun hlive seq => ?_, fun hdead => ?_⟩
      · have hcount := heq hlive seq
        simp [owing, recordedSeqs, hcallers, List.count_cons] at hcount
        simp [owing, recordedSeqs, withQueue, Queue.held_append, Generic.messageOf,
          Message.ofPayload, List.count_cons, hcount]
        omega
      · have hshut := hstopped (hdropped hdead)
        simp [hopen] at hshut
  | refused hcallers hshut hpending =>
      obtain ⟨rfl, before, after, hsplit, hforget⟩ := Generic.exists_of_pending? hpending
      refine ⟨hstopped, hdropped, fun hlive seq => ?_, fun hdead seq => ?_⟩
      · have hcount := heq hlive seq
        simp [owing, recordedSeqs, hcallers, hsplit, List.count_cons]
          at hcount
        simp [owing, recordedSeqs, hforget]
        omega
      · have hcount := hle hdead seq
        simp [recordedSeqs, hcallers, hsplit, List.count_cons] at hcount
        simp [recordedSeqs, hforget]
        omega
  | @bereft before after command seq hcallers hshut hpending =>
      have hnone := List.count_eq_zero.mpr (Generic.not_mem_of_pending?_eq_none hpending)
      refine ⟨hstopped, hdropped, fun hlive => ?_, fun hdead other => ?_⟩
      · have hcount := heq hlive seq
        simp [owing, recordedSeqs, hcallers, hnone] at hcount
      · have hcount := hle hdead other
        by_cases hother : other = seq
        · exact hother ▸ hnone ▸ Nat.zero_le _
        · simpa [recordedSeqs, hcallers, List.count_cons, Ne.symm hother]
            using hcount
  | subscribed => exact ⟨hstopped, hdropped, heq, hle⟩
  | started hworker hopening =>
      have hlive := hlive (by simp [hworker])
      refine ⟨by simp [withQueue], by simp [withQueue, hlive], fun _ seq => ?_, by
        simp [withQueue, hlive]⟩
      simpa [owing, recordedSeqs, Queue.held, hworker, withQueue] using heq hlive seq
  | popped hworker hwaiting hopen hgiven =>
      have hlive := hlive (by simp [hworker])
      refine ⟨by simp [withQueue], by simp [withQueue, hlive], fun _ seq => ?_, by
        simp [withQueue, hlive]⟩
      simpa [owing, recordedSeqs, Queue.held, hworker, hwaiting, withQueue] using heq hlive seq
  | @answered fault? message answer p result hworker hpending hresult =>
      obtain ⟨hseq, before, after, hsplit, hforget⟩ := Generic.exists_of_pending? hpending
      have hafter : ((t.afterwards fault?).forget message.seq).pending = before ++ after := hforget
      have hlive := hlive (by simp [hworker])
      refine ⟨by simp [afterwards], by simp [hlive], fun _ seq => ?_, by simp [hlive]⟩
      have hcount := heq hlive seq
      simp [owing, recordedSeqs, Queue.held, hworker, hsplit, hseq, List.count_cons] at hcount
      simp [owing, recordedSeqs, Queue.held, hafter]
      omega
  | unmatched hworker hpending =>
      obtain ⟨p, hsome⟩ := hreply hworker
      simp [hpending] at hsome
  | stopped hworker hshut hcalls =>
      have hlive := hlive (by simp [hworker])
      refine ⟨by simp [withQueue, hshut], by simp [withQueue, hlive], fun _ seq => ?_, by
        simp [withQueue, hlive]⟩
      simpa [owing, recordedSeqs, Queue.held, hworker, withQueue] using heq hlive seq
  | closed =>
      refine ⟨by simp [withQueue], hdropped, fun hlive seq => ?_, hle⟩
      simpa [owing, recordedSeqs, Queue.held, withQueue] using heq hlive seq
  | abandoned hworker =>
      exact ⟨hstopped, fun _ => hworker, by simp, by simp⟩

theorem Balanced.held_ne_nil (hbalanced : t.Balanced) (hlive : t.isDropped = false)
    (hcallers : t.callers = []) (hunderway : t.underway ≠ []) : t.handler.queue.held ≠ [] := by
  intro hheld
  have hpending : t.handler.pending.map (·.seq) = [] := by
    rw [List.eq_nil_iff_forall_not_mem]
    intro seq
    rw [← List.count_eq_zero, hbalanced.count_eq hlive]
    simp [owing, recordedSeqs, hcallers, hheld]
  rw [List.map_eq_nil_iff] at hpending
  exact hunderway (by simp [underway, hcallers, hpending])

theorem Balanced.underway_eq_nil (h : t.Balanced) (hdropped : t.isDropped = true)
    (hcallers : t.callers = []) : t.underway = [] := by
  have hpending : t.handler.pending.map (·.seq) = [] := by
    rw [List.eq_nil_iff_forall_not_mem]
    intro seq hmem
    have hcount := h.count_le hdropped seq
    simp only [recordedSeqs, hcallers, List.flatMap_nil, List.count_nil, Nat.le_zero] at hcount
    exact List.count_eq_zero.mp hcount hmem
  rw [List.map_eq_nil_iff] at hpending
  simp [underway, hcallers, hpending]

end Traffic

namespace History

/-- The commands that have been offered are those completed and those under way. -/
def Conserved (h : History) : Prop :=
  (h.completed ++ h.now.underway.map (·.ticket)).Perm (h.now.offered.map (·.ticket))

variable {h : History}

theorem completed_snoc (h : History) (next : Traffic) (m : Moment) :
    completed ⟨next, h.past ++ [m]⟩ = h.completed ++ m.completions.map (·.1) := by
  simp [completed, completions]

theorem Conserved.follow (hconserved : h.Conserved) (schedule : List Traffic.Step) :
    (h.follow schedule).Conserved := by
  refine follow_invariant (fun h s next events hconserved heffect => ?_) hconserved schedule
  unfold Conserved at hconserved ⊢
  rw [completed_snoc, heffect.offered, List.append_assoc]
  calc
    (h.completed ++ ((Event.completions events).map (·.1) ++ next.underway.map (·.ticket))).Perm
        (h.completed ++ (h.now.underway ++ s.offers).map (·.ticket)) :=
      heffect.conserves.append_left _
    _ = h.completed ++ h.now.underway.map (·.ticket) ++ s.offers.map (·.ticket) := by
      rw [List.map_append, List.append_assoc]
    List.Perm _ (h.now.offered.map (·.ticket) ++ s.offers.map (·.ticket)) :=
      hconserved.append_right _
    _ = (h.now.offered ++ s.offers).map (·.ticket) := List.map_append.symm

theorem balanced_follow (hbalanced : h.now.Balanced) (schedule : List Traffic.Step) :
    (h.follow schedule).now.Balanced :=
  follow_invariant (P := fun h => h.now.Balanced)
    (fun _ _ _ _ hbalanced heffect => heffect.balanced hbalanced) hbalanced schedule

end History

theorem history_conserved (defaultAdapter : String) (schedule : List Traffic.Step) :
    (history defaultAdapter schedule).Conserved :=
  History.Conserved.follow (by simp [History.Conserved, History.begin, History.completed,
    History.completions, Traffic.underway]) schedule

end CecGateway
