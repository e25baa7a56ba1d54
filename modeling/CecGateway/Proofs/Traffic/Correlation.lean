import CecGateway.Proofs.Traffic.Balance
import Mathlib.Data.List.Nodup

/-!
# Replies find their commands

Numbers are given out, commands recorded and messages submitted in steps of their own, so the
pending commands and the queue may stand in different orders. Still, while fewer commands have been
offered than there are numbers, no two pending commands share one, and every message that the queue
holds was made from the one pending command that has its number (`replies_correlate`).
-/

namespace CecGateway

def Caller.seqs (c : Caller) : List Nat :=
  match c.progress with
  | .validated => []
  | .numbered seq | .recorded seq => [seq]

section

variable (command : Command) (seq : Nat)

@[simp]
theorem Caller.seqs_validated : (⟨command, .validated⟩ : Caller).seqs = [] := rfl

@[simp]
theorem Caller.seqs_numbered : (⟨command, .numbered seq⟩ : Caller).seqs = [seq] := rfl

@[simp]
theorem Caller.seqs_recorded : (⟨command, .recorded seq⟩ : Caller).seqs = [seq] := rfl

end

namespace Generic

theorem mem_forget {g : Generic} {seq : Nat} {p : Pending} (hmem : p ∈ g.pending)
    (hne : p.seq ≠ seq) : p ∈ (g.forget seq).pending :=
  (List.mem_eraseP_of_neg (by simpa using hne)).mpr hmem

theorem mem_of_mem_forget {g : Generic} {seq : Nat} {p : Pending}
    (hmem : p ∈ (g.forget seq).pending) : p ∈ g.pending :=
  List.mem_of_mem_eraseP hmem

theorem allocate_nextSeq {g : Generic} {n : Nat}
    (hnext : g.nextSeq.toNat = (n + 1) % UInt64.size) :
    g.allocate.2.nextSeq.toNat = (n + 1 + 1) % UInt64.size := by
  simp only [allocate, UInt64.toNat_add, hnext]
  exact Nat.mod_add_mod (n + 1) UInt64.size 1

end Generic

namespace Traffic

def unnumbered (t : Traffic) : Nat := t.callers.countP (·.progress = .validated)

/-- The numbers in use: of calls, and of the messages that the queue holds. -/
def keys (t : Traffic) : List Nat :=
  t.callers.flatMap (·.seqs) ++ t.handler.queue.held.map (·.seq)

/-- The first `n` numbers have been given out, and those in use are in use once. -/
structure Numbering (n : Nat) (t : Traffic) : Prop where
  nextSeq_eq : t.handler.nextSeq.toNat = (n + 1) % UInt64.size
  numbered_le : n + t.unnumbered ≤ t.offered.length
  count_keys_le : ∀ seq, t.keys.count seq ≤ if seq ≤ n then 1 else 0

/-- Recorded calls and messages have the records they were made from. -/
structure Matched (t : Traffic) : Prop where
  kind_eq : ∀ p ∈ t.handler.pending, p.kind = p.command.payload.kind
  record_of_caller : t.isDropped = false → ∀ command seq, ⟨command, .recorded seq⟩ ∈ t.callers →
    ⟨seq, command.payload.kind, command⟩ ∈ t.handler.pending
  record_of_message : t.isDropped = false → ∀ message ∈ t.handler.queue.held,
    ∃ p ∈ t.handler.pending,
      message = .ofPayload p.seq t.handler.defaultAdapter p.command.payload

variable {t next : Traffic} {s : Step} {events : List Event} {n : Nat}

theorem numbering_begin (defaultAdapter : String) :
    Numbering 0 { handler := { defaultAdapter } } where
  nextSeq_eq := rfl
  numbered_le := Nat.zero_le _
  count_keys_le := by simp [keys, Queue.held]

theorem matched_begin (defaultAdapter : String) :
    Matched { handler := { defaultAdapter } } where
  kind_eq := by simp
  record_of_caller := by simp
  record_of_message := by simp [Queue.held]

theorem Numbering.count_keys_le_one (hnumbering : t.Numbering n) (seq : Nat) :
    t.keys.count seq ≤ 1 := by
  have hcount := hnumbering.count_keys_le seq
  split at hcount <;> omega

/-- A step that gives out no number and leaves no more calls and messages keeps the numbering. -/
theorem Numbering.mono (hnumbering : t.Numbering n)
    (hnext : next.handler.nextSeq = t.handler.nextSeq)
    (hle : next.unnumbered + t.offered.length ≤ t.unnumbered + next.offered.length)
    (hkeys : ∀ seq, next.keys.count seq ≤ t.keys.count seq) : next.Numbering n where
  nextSeq_eq := hnext ▸ hnumbering.nextSeq_eq
  numbered_le := by
    have := hnumbering.numbered_le
    omega
  count_keys_le seq := Nat.le_trans (hkeys seq) (hnumbering.count_keys_le seq)

/-- The next number is new as long as fewer commands have been offered than there are numbers. -/
theorem Numbering.allocate_eq (hnumbering : t.Numbering n) (hunnumbered : 0 < t.unnumbered)
    (hbound : t.offered.length < UInt64.size) : t.handler.allocate.1 = n + 1 := by
  have hle := hnumbering.numbered_le
  rw [Generic.allocate, hnumbering.nextSeq_eq, Nat.mod_eq_of_lt (by omega)]

theorem Effect.numbering (h : t.Effect s next events) (hnumbering : t.Numbering n)
    (hbound : next.offered.length < UInt64.size) : ∃ n, next.Numbering n := by
  cases h with
  | rejected hinvalid =>
      exact ⟨n, hnumbering.mono rfl (by simp [unnumbered]) fun _ => Nat.le_refl _⟩
  | entered hvalid =>
      exact ⟨n, hnumbering.mono rfl (by simp [unnumbered]; omega) fun seq => by simp [keys]⟩
  | @numbered before after command hcallers =>
      have hunnumbered : 0 < t.unnumbered :=
        List.countP_pos_iff.mpr ⟨⟨command, .validated⟩, by simp [hcallers], by simp⟩
      have hseq := hnumbering.allocate_eq hunnumbered hbound
      refine ⟨n + 1, Generic.allocate_nextSeq hnumbering.nextSeq_eq, ?_, fun seq => ?_⟩
      · have hle := hnumbering.numbered_le
        simp [unnumbered, hcallers] at hle ⊢
        omega
      · have hcount := hnumbering.count_keys_le seq
        have hkeys : List.count seq (keys { t with
            handler := t.handler.allocate.2
            callers := before ++ ⟨command, .numbered t.handler.allocate.1⟩ :: after }) =
            t.keys.count seq + if n + 1 = seq then 1 else 0 := by
          rw [hseq]
          simp [keys, hcallers, Generic.allocate, List.count_cons]
          omega
        rw [hkeys]
        grind
  | @recorded before after command seq hcallers =>
      exact ⟨n, hnumbering.mono rfl (by simp [unnumbered, hcallers]) fun seq => by
        simp [keys, hcallers, Generic.record]⟩
  | submitted hcallers hopen =>
      refine ⟨n, hnumbering.mono rfl (by simp [unnumbered, hcallers, withQueue]) fun seq => ?_⟩
      simp [keys, hcallers, withQueue, Queue.held_append, Generic.messageOf, Message.ofPayload,
        List.count_cons]
      omega
  | refused hcallers hshut hpending =>
      refine ⟨n, hnumbering.mono rfl (by simp [unnumbered, hcallers]) fun seq => ?_⟩
      simp [keys, hcallers, List.count_cons]
  | bereft hcallers hshut hpending =>
      refine ⟨n, hnumbering.mono rfl (by simp [unnumbered, hcallers]) fun seq => ?_⟩
      simp [keys, hcallers, List.count_cons]
  | subscribed => exact ⟨n, hnumbering.mono rfl (Nat.le_refl _) fun _ => Nat.le_refl _⟩
  | started hworker hopening =>
      exact ⟨n, hnumbering.mono rfl (Nat.le_refl _) fun seq => by
        simp [keys, withQueue, Queue.held, hworker]⟩
  | popped hworker hwaiting hopen hgiven =>
      exact ⟨n, hnumbering.mono rfl (Nat.le_refl _) fun seq => by
        simp [keys, withQueue, Queue.held, hworker, hwaiting]⟩
  | answered hworker hpending hresult =>
      exact ⟨n, hnumbering.mono (by simp [afterwards, Generic.forget]) (Nat.le_refl _) fun seq => by
        simp [keys, Queue.held, hworker, List.count_cons]⟩
  | unmatched hworker hpending =>
      exact ⟨n, hnumbering.mono rfl (Nat.le_refl _) fun seq => by
        simp [keys, Queue.held, hworker, List.count_cons]⟩
  | stopped hworker hshut hcalls =>
      exact ⟨n, hnumbering.mono rfl (Nat.le_refl _) fun seq => by
        simp [keys, withQueue, Queue.held, hworker]⟩
  | closed => exact ⟨n, hnumbering.mono rfl (Nat.le_refl _) fun _ => Nat.le_refl _⟩
  | abandoned hworker => exact ⟨n, hnumbering.mono rfl (Nat.le_refl _) fun _ => Nat.le_refl _⟩

theorem mem_keys_of_recorded {command : Command} {seq : Nat}
    (hmem : ⟨command, .recorded seq⟩ ∈ t.callers) : seq ∈ t.keys :=
  List.mem_append_left _ (List.mem_flatMap.mpr ⟨_, hmem, by simp⟩)

theorem mem_keys_of_held {message : Message} (hmem : message ∈ t.handler.queue.held) :
    message.seq ∈ t.keys :=
  List.mem_append_right _ (List.mem_map_of_mem hmem)

theorem count_recordedSeqs_le (callers : List Caller) (seq : Nat) :
    (callers.flatMap (·.recordedSeqs)).count seq ≤ (callers.flatMap (·.seqs)).count seq := by
  induction callers with
  | nil => simp
  | cons c rest ih =>
      obtain ⟨command, progress⟩ := c
      cases progress <;> simp [List.count_cons] <;> omega

theorem Numbering.pending_nodup (hnumbering : t.Numbering n) (hbalanced : t.Balanced) :
    (t.handler.pending.map (·.seq)).Nodup := by
  rw [List.nodup_iff_count_le_one]
  intro seq
  have hkeys := hnumbering.count_keys_le_one seq
  have hrecorded := count_recordedSeqs_le t.callers seq
  rw [keys, List.count_append] at hkeys
  cases hdropped : t.isDropped with
  | false =>
      rw [hbalanced.count_eq hdropped, owing, List.count_append, recordedSeqs]
      omega
  | true =>
      have hcount := hbalanced.count_le hdropped seq
      rw [recordedSeqs] at hcount
      omega

theorem Numbering.pending_eq (hnumbering : t.Numbering n) (hbalanced : t.Balanced) {p q : Pending}
    (hp : p ∈ t.handler.pending) (hq : q ∈ t.handler.pending) (hseq : p.seq = q.seq) : p = q :=
  List.inj_on_of_nodup_map (hnumbering.pending_nodup hbalanced) hp hq hseq

/-- Calls and messages that are left keep their records when those of their numbers are kept. -/
theorem Matched.mono (hmatched : t.Matched)
    (hadapter : next.handler.defaultAdapter = t.handler.defaultAdapter)
    (hdropped : next.isDropped = t.isDropped)
    (hcallers : ∀ command seq, ⟨command, .recorded seq⟩ ∈ next.callers →
      ⟨command, .recorded seq⟩ ∈ t.callers)
    (hheld : ∀ message ∈ next.handler.queue.held, message ∈ t.handler.queue.held)
    (hpending : ∀ p ∈ next.handler.pending, p ∈ t.handler.pending)
    (hkeep : ∀ p ∈ t.handler.pending, p.seq ∈ next.keys → p ∈ next.handler.pending) :
    next.Matched where
  kind_eq p hp := hmatched.kind_eq p (hpending p hp)
  record_of_caller hlive command seq hmem :=
    hkeep _ (hmatched.record_of_caller (hdropped ▸ hlive) command seq (hcallers command seq hmem))
      (mem_keys_of_recorded hmem)
  record_of_message hlive message hmem := by
    obtain ⟨p, hp, heq⟩ := hmatched.record_of_message (hdropped ▸ hlive) message (hheld _ hmem)
    have hseq : p.seq = message.seq := by rw [heq, Message.ofPayload]
    exact ⟨p, hkeep p hp (hseq ▸ mem_keys_of_held hmem), hadapter ▸ heq⟩

theorem mem_forget_of_count {keys : List Nat} {g : Generic} {seq : Nat}
    (hunused : keys.count seq = 0) {p : Pending} (hp : p ∈ g.pending) (hmem : p.seq ∈ keys) :
    p ∈ (g.forget seq).pending :=
  Generic.mem_forget hp fun heq => List.count_eq_zero.mp hunused (heq ▸ hmem)

theorem Effect.matched (h : t.Effect s next events) (hnumbering : t.Numbering n)
    (hmatched : t.Matched) : next.Matched := by
  have hkeys := hnumbering.count_keys_le_one
  cases h with
  | rejected hinvalid =>
      exact hmatched.mono rfl rfl (fun _ _ h => h) (fun _ h => h) (fun _ h => h) fun _ h _ => h
  | entered hvalid =>
      exact hmatched.mono rfl rfl (by simp) (fun _ h => h) (fun _ h => h) fun _ h _ => h
  | numbered hcallers =>
      exact hmatched.mono rfl rfl (by simp [hcallers]) (fun _ h => h) (fun _ h => h) fun _ h _ => h
  | @recorded before after command seq hcallers =>
      obtain ⟨hkind, hcaller, hmessage⟩ := hmatched
      rw [hcallers] at hcaller
      refine ⟨?_, fun hlive other number hmem => ?_, fun hlive message hmem => ?_⟩
      · simp only [Generic.record, List.mem_append, List.mem_singleton]
        rintro p (hp | rfl)
        · exact hkind p hp
        · rfl
      · have hrecord := hcaller hlive other number
        simp [Generic.record] at hmem hrecord ⊢
        grind
      · obtain ⟨p, hp, heq⟩ := hmessage hlive message hmem
        exact ⟨p, List.mem_append_left _ hp, heq⟩
  | @submitted before after command seq hcallers hopen =>
      obtain ⟨hkind, hcaller, hmessage⟩ := hmatched
      rw [hcallers] at hcaller
      refine ⟨hkind, fun hlive other number hmem => ?_, fun hlive message hmem => ?_⟩
      · exact hcaller hlive other number (by simp at hmem ⊢; tauto)
      · simp only [withQueue, Queue.held_append, List.mem_append, List.mem_singleton] at hmem
        rcases hmem with hheld | rfl
        · exact hmessage hlive message hheld
        · exact ⟨_, hcaller hlive command seq (by simp), rfl⟩
  | @refused before after command seq p hcallers hshut hpending =>
      have hunused : List.count seq (keys { t with
          handler := t.handler.forget seq, callers := before ++ after }) = 0 := by
        have hcount := hkeys seq
        simp [keys, hcallers] at hcount ⊢
        omega
      exact hmatched.mono rfl rfl (by simp [hcallers]; tauto) (fun _ h => h)
        (fun _ => Generic.mem_of_mem_forget) fun _ => mem_forget_of_count hunused
  | bereft hcallers hshut hpending =>
      exact hmatched.mono rfl rfl (by simp [hcallers]; tauto) (fun _ h => h) (fun _ h => h)
        fun _ h _ => h
  | subscribed =>
      exact hmatched.mono rfl rfl (fun _ _ h => h) (fun _ h => h) (fun _ h => h) fun _ h _ => h
  | started hworker hopening =>
      exact hmatched.mono rfl rfl (fun _ _ h => h) (by simp [withQueue, Queue.held, hworker])
        (fun _ h => h) fun _ h _ => h
  | popped hworker hwaiting hopen hgiven =>
      exact hmatched.mono rfl rfl (fun _ _ h => h)
        (by simp [withQueue, Queue.held, hworker, hwaiting]) (fun _ h => h) fun _ h _ => h
  | @answered fault? message answer p result hworker hpending hresult =>
      have hunused : List.count message.seq (keys { t with
          handler := (((t.afterwards fault?).forget message.seq).apply result).1 }) = 0 := by
        have hcount := hkeys message.seq
        simp [keys, Queue.held, hworker] at hcount ⊢
        omega
      refine hmatched.mono (by simp [afterwards, Generic.forget]) rfl (fun _ _ h => h)
        (by simp +contextual [Queue.held, hworker]) (fun p hp => ?_) fun p hp hmem => ?_
      · rw [Generic.apply_pending] at hp
        exact Generic.mem_of_mem_forget hp
      · rw [Generic.apply_pending]
        exact mem_forget_of_count hunused hp hmem
  | unmatched hworker hpending =>
      exact hmatched.mono rfl rfl (fun _ _ h => h)
        (by simp +contextual [Queue.held, hworker, afterwards]) (fun _ h => h) fun _ h _ => h
  | stopped hworker hshut hcalls =>
      exact hmatched.mono rfl rfl (fun _ _ h => h) (by simp [withQueue, Queue.held, hworker])
        (fun _ h => h) fun _ h _ => h
  | closed =>
      exact hmatched.mono rfl rfl (fun _ _ h => h) (fun _ h => h) (fun _ h => h) fun _ h _ => h
  | abandoned hworker => exact ⟨by simp, by simp, by simp⟩

/-- The command that the worker waits for is the last that the hardware has been given. -/
def Executing (t : Traffic) : Prop :=
  ∀ fault? message native, t.handler.queue.worker = .busy fault? message →
    Queue.commandFor fault? message = .ok native → t.handler.queue.executed.getLast? = some native

theorem Effect.executing (h : t.Effect s next events) (hexecuting : t.Executing) :
    next.Executing := by
  intro fault? message native hbusy hcommand
  cases h with
  | popped hworker hwaiting hopen hgiven =>
      obtain ⟨rfl, rfl⟩ : _ ∧ _ := by simpa [withQueue] using hbusy
      simp [withQueue, hgiven, hcommand, Except.toOption]
  | started hworker hopening => simp [withQueue] at hbusy
  | answered hworker hpending hresult => simp at hbusy
  | unmatched hworker hpending => simp at hbusy
  | stopped hworker hshut hcalls => simp [withQueue] at hbusy
  | rejected | entered | numbered | recorded | submitted | refused | bereft | subscribed | closed
  | abandoned => exact hexecuting fault? message native hbusy hcommand

theorem Effect.defaultAdapter (h : t.Effect s next events) :
    next.handler.defaultAdapter = t.handler.defaultAdapter := by
  cases h <;> simp [Generic.allocate, Generic.record, Generic.forget, Generic.subscribe, withQueue,
    afterwards]

/-- All the bookkeeping of a handler that was built with a default adapter. -/
structure Tracked (defaultAdapter : String) (t : Traffic) : Prop where
  defaultAdapter_eq : t.handler.defaultAdapter = defaultAdapter
  balanced : t.Balanced
  numbering : ∃ n, t.Numbering n
  matched : t.Matched
  executing : t.Executing

theorem tracked_begin (defaultAdapter : String) :
    Tracked defaultAdapter { handler := { defaultAdapter } } where
  defaultAdapter_eq := rfl
  balanced := balanced_begin _ rfl rfl rfl
  numbering := ⟨0, numbering_begin defaultAdapter⟩
  matched := matched_begin defaultAdapter
  executing := by simp [Executing]

theorem Effect.tracked {defaultAdapter : String} (h : t.Effect s next events)
    (htracked : t.Tracked defaultAdapter) (hbound : next.offered.length < UInt64.size) :
    next.Tracked defaultAdapter := by
  obtain ⟨hadapter, hbalanced, ⟨n, hnumbering⟩, hmatched, hexecuting⟩ := htracked
  exact ⟨h.defaultAdapter.trans hadapter, h.balanced hbalanced, h.numbering hnumbering hbound,
    h.matched hnumbering hmatched, h.executing hexecuting⟩

/-- What ties the pending commands of a handler to the messages of its queue and to the replies. -/
structure Correlates (defaultAdapter : String) (t : Traffic) : Prop where
  seqs_nodup : (t.handler.pending.map (·.seq)).Nodup
  /-- Every message that waits or is executed has exactly one record with its number, and was made
  from that record's payload. -/
  record_of_held : t.isDropped = false → ∀ message ∈ t.handler.queue.held,
    ∃ p, t.handler.pending.filter (·.seq = message.seq) = [p] ∧ p.kind = message.kind ∧
      message = .ofPayload message.seq defaultAdapter p.command.payload
  /-- Whatever the hardware answers, the answer is read as one to the payload from which the command
  was made that the hardware was given last, and completes the command with that payload. -/
  reply_answers : ∀ answer next events, t.step (.work (.finish answer)) = some (next, events) →
    ∃ fault? message p, t.handler.queue.worker = .busy fault? message ∧
      t.handler.pending.filter (·.seq = message.seq) = [p] ∧
      message = .ofPayload message.seq defaultAdapter p.command.payload ∧
      (∀ native, Queue.commandFor fault? message = .ok native →
        t.handler.queue.executed.getLast? = some native) ∧
      Event.completions events =
        [(p.command.ticket, Generic.resultOf p (Queue.outcomeFor fault? message answer))]

theorem filter_eq_singleton {pending : List Pending} {p : Pending}
    (hnodup : (pending.map (·.seq)).Nodup) (hmem : p ∈ pending) {seq : Nat} (hseq : p.seq = seq) :
    pending.filter (·.seq = seq) = [p] := by
  obtain ⟨before, after, rfl⟩ := List.append_of_mem hmem
  simp only [List.map_append, List.map_cons, List.nodup_append, List.nodup_cons] at hnodup
  obtain ⟨-, ⟨hafter, -⟩, hbefore⟩ := hnodup
  have hbefore : before.filter (·.seq = seq) = [] := by
    simp only [List.filter_eq_nil_iff, decide_eq_true_eq]
    exact fun q hq heq =>
      hbefore _ (List.mem_map_of_mem hq) _ List.mem_cons_self (heq.trans hseq.symm)
  have hafter : after.filter (·.seq = seq) = [] := by
    simp only [List.filter_eq_nil_iff, decide_eq_true_eq]
    exact fun q hq heq => hafter (List.mem_map.mpr ⟨q, hq, heq.trans hseq.symm⟩)
  simp [List.filter_append, hbefore, hafter, hseq]

theorem Tracked.exists_record {defaultAdapter : String} (h : t.Tracked defaultAdapter)
    (hlive : t.isDropped = false) (message : Message) (hmem : message ∈ t.handler.queue.held) :
    ∃ p, t.handler.pending.filter (·.seq = message.seq) = [p] ∧ p.kind = message.kind ∧
      message = .ofPayload message.seq defaultAdapter p.command.payload := by
  obtain ⟨rfl, hbalanced, ⟨n, hnumbering⟩, hmatched, -⟩ := h
  obtain ⟨p, hp, rfl⟩ := hmatched.record_of_message hlive message hmem
  exact ⟨p, filter_eq_singleton (hnumbering.pending_nodup hbalanced) hp rfl,
    hmatched.kind_eq p hp, rfl⟩

theorem Tracked.exists_answered {defaultAdapter : String} (h : t.Tracked defaultAdapter)
    {answer : Except Fault Response} (heffect : t.Effect (.work (.finish answer)) next events) :
    ∃ fault? message p, t.handler.queue.worker = .busy fault? message ∧
      t.handler.pending.filter (·.seq = message.seq) = [p] ∧
      message = .ofPayload message.seq defaultAdapter p.command.payload ∧
      (∀ native, Queue.commandFor fault? message = .ok native →
        t.handler.queue.executed.getLast? = some native) ∧
      Event.completions events =
        [(p.command.ticket, Generic.resultOf p (Queue.outcomeFor fault? message answer))] := by
  cases heffect with
  | @answered fault? message _ p result hworker hpending hresult =>
      obtain ⟨q, hfilter, -, hmessage⟩ := h.exists_record
        (h.balanced.isDropped_eq_false (by simp [hworker])) message
        (by simp [Queue.held, hworker])
      obtain rfl : q = p := by
        have hhead : (t.handler.pending.filter (·.seq = message.seq)).head? = some p := by
          rwa [List.head?_filter]
        simpa [hfilter] using hhead
      refine ⟨fault?, message, q, hworker, hfilter, hmessage, fun native => ?_, ?_⟩
      · exact h.executing fault? message native hworker
      · simp [hresult]
  | unmatched hworker hpending =>
      obtain ⟨p, hsome⟩ := h.balanced.exists_pending hworker
      simp [hpending] at hsome

theorem Tracked.correlates {defaultAdapter : String} (h : t.Tracked defaultAdapter) :
    t.Correlates defaultAdapter where
  seqs_nodup := by
    obtain ⟨n, hnumbering⟩ := h.numbering
    exact hnumbering.pending_nodup h.balanced
  record_of_held hlive := h.exists_record hlive
  reply_answers _ _ _ hstep := h.exists_answered (effect_of_step hstep)

end Traffic

theorem History.tracked_follow {defaultAdapter : String} {h : History}
    (htracked : h.now.Tracked defaultAdapter) (schedule : List Traffic.Step)
    (hbound : (h.follow schedule).now.offered.length < UInt64.size) :
    (h.follow schedule).now.Tracked defaultAdapter := by
  refine follow_invariant
    (P := fun h => h.now.offered.length < UInt64.size → h.now.Tracked defaultAdapter)
    (fun h s next events htracked heffect hbound => ?_) (fun _ => htracked) schedule hbound
  refine heffect.tracked (htracked ?_) hbound
  rw [heffect.offered, List.length_append] at hbound
  omega

theorem history_tracked (defaultAdapter : String) (schedule : List Traffic.Step)
    (hbound : (history defaultAdapter schedule).now.offered.length < UInt64.size) :
    (history defaultAdapter schedule).now.Tracked defaultAdapter :=
  History.tracked_follow (Traffic.tracked_begin defaultAdapter) schedule hbound

/-- Every reply finds its command, however calls, the worker and the end of the handler overlap. -/
theorem replies_correlate (defaultAdapter : String) (schedule : List Traffic.Step)
    (hbound : (history defaultAdapter schedule).now.offered.length < UInt64.size) :
    (history defaultAdapter schedule).now.Correlates defaultAdapter :=
  (history_tracked defaultAdapter schedule hbound).correlates

/-- Two calls of which the second overtakes the first between recording and submitting. -/
def overtaking : List Traffic.Step :=
  [.offer ⟨7, .listAdapters⟩, .offer ⟨8, .scan none⟩, .advance 0, .advance 1, .advance 0,
    .advance 1, .advance 1, .work (.start (.ok ())), .work .pop, .advance 0]

theorem overtaking_replies_correlate :
    (history "RPI" overtaking).now.offered.length < UInt64.size ∧
      (history "RPI" overtaking).now.handler.pending.map (·.seq) = [1, 2] ∧
      (history "RPI" overtaking).now.handler.queue.held.map (·.seq) = [2, 1] ∧
      (history "RPI" overtaking).now.Correlates "RPI" :=
  ⟨by decide, by decide, by decide, replies_correlate "RPI" overtaking (by decide)⟩

end CecGateway
