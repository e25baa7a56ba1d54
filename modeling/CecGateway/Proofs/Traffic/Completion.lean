import CecGateway.Proofs.Traffic.Correlation
import CecGateway.Proofs.Traffic.Runs

/-!
# Every command is completed once

The handler completes a command in one of four places: in the call that offers it, when it is not
valid; in the same call, when the queue is already shut; in the worker, with its own reply; and at
the end, when it is still pending. `commands_complete` says which commands are completed where, in
which order, and that none is completed twice or left out.
-/

namespace CecGateway

/-- How many messages the worker has popped and not answered. -/
def Queue.inFlight (q : Queue) : Nat :=
  match q.worker with
  | .busy _ _ => 1
  | _ => 0

namespace Traffic

/-- The ticket of the command that a step puts on the queue. -/
def queues (t : Traffic) : Step → List Nat
  | .advance place =>
    match t.callers[place]? with
    | some ⟨command, .recorded _⟩ => if t.handler.queue.isShut then [] else [command.ticket]
    | _ => []
  | _ => []

def Step.answers (events : List Event) : Step → List Nat
  | .work (.finish _) => (Event.completions events).map (·.1)
  | _ => []

def Step.isPop : Step → Bool
  | .work .pop => true
  | _ => false

end Traffic

/-- The command with this ticket is pending under the number of the message. -/
def Owner (pending : List Pending) (message : Message) (ticket : Nat) : Prop :=
  ∃ p ∈ pending, p.seq = message.seq ∧ p.command.ticket = ticket

theorem Owner.append {pending : List Pending} {message : Message} {ticket : Nat}
    (h : Owner pending message ticket) (later : List Pending) :
    Owner (pending ++ later) message ticket := by
  obtain ⟨p, hp, heq⟩ := h
  exact ⟨p, List.mem_append_left later hp, heq⟩

theorem owners_forget {g : Generic} {seq : Nat} {messages : List Message} {tickets : List Nat}
    (hunused : ∀ message ∈ messages, message.seq ≠ seq)
    (howners : List.Forall₂ (Owner g.pending) messages tickets) :
    List.Forall₂ (Owner (g.forget seq).pending) messages tickets := by
  induction howners with
  | nil => exact .nil
  | cons howner _ ih =>
      obtain ⟨p, hp, hseq, hticket⟩ := howner
      have hne := hunused _ List.mem_cons_self
      have hkept := Generic.mem_forget hp (hseq ▸ hne)
      exact .cons ⟨p, hkept, hseq, hticket⟩
        (ih fun message hmem => hunused message (List.mem_cons_of_mem _ hmem))

namespace Traffic

variable {t next : Traffic} {s : Step} {events : List Event} {defaultAdapter : String}

theorem queues_advance {before after : List Caller} {command : Command} {seq : Nat}
    (hcallers : t.callers = before ++ ⟨command, .recorded seq⟩ :: after) :
    t.queues (.advance before.length) =
      if t.handler.queue.isShut then [] else [command.ticket] := by
  simp [queues, hcallers]

/-- A step serves the queue: the messages it leaves belong to the commands it leaves. -/
theorem Effect.serves (h : t.Effect s next events) (htracked : t.Tracked defaultAdapter)
    (hlive : next.isDropped = false) {rest : List Nat}
    (howners : List.Forall₂ (Owner t.handler.pending) t.handler.queue.held rest) :
    ∃ left, rest ++ t.queues s = s.answers events ++ left ∧
      List.Forall₂ (Owner next.handler.pending) next.handler.queue.held left := by
  obtain ⟨n, hnumbering⟩ := htracked.numbering
  cases h with
  | rejected hinvalid => exact ⟨rest, by simp [queues, Step.answers], howners⟩
  | entered hvalid => exact ⟨rest, by simp [queues, Step.answers], howners⟩
  | numbered hcallers => exact ⟨rest, by simp [queues, Step.answers, hcallers], howners⟩
  | recorded hcallers =>
      exact ⟨rest, by simp [queues, Step.answers, hcallers], howners.imp fun _ _ h => h.append _⟩
  | @submitted before after command seq hcallers hopen =>
      refine ⟨rest ++ [command.ticket], by simp [queues_advance hcallers, Step.answers, hopen], ?_⟩
      have hrecord := htracked.matched.record_of_caller hlive command seq (by simp [hcallers])
      have howner : Owner t.handler.pending (t.handler.messageOf seq command.payload)
          command.ticket := ⟨_, hrecord, rfl, rfl⟩
      simp only [withQueue, Queue.held_append]
      exact List.rel_append howners (.cons howner .nil)
  | @refused before after command seq p hcallers hshut hpending =>
      refine ⟨rest, by simp [queues_advance hcallers, Step.answers, hshut],
        owners_forget (fun message hmem heq => ?_) howners⟩
      have hcount := hnumbering.count_keys_le_one seq
      have hheld : 0 < (t.handler.queue.held.map (·.seq)).count seq :=
        List.count_pos_iff.mpr (heq ▸ List.mem_map_of_mem hmem)
      simp [keys, hcallers] at hcount
      omega
  | bereft hcallers hshut hpending =>
      exact ⟨rest, by simp [queues_advance hcallers, Step.answers, hshut], howners⟩
  | subscribed => exact ⟨rest, by simp [queues, Step.answers], howners⟩
  | started hworker hopening =>
      refine ⟨rest, by simp [queues, Step.answers], ?_⟩
      simpa [Queue.held, hworker, withQueue] using howners
  | popped hworker hwaiting hopen hgiven =>
      refine ⟨rest, by simp [queues, Step.answers], ?_⟩
      simpa [Queue.held, hworker, hwaiting, withQueue] using howners
  | @answered fault? message answer p result hworker hpending hresult =>
      obtain ⟨hseq, before, after, hsplit, -⟩ := Generic.exists_of_pending? hpending
      have hp : p ∈ t.handler.pending := by simp [hsplit]
      have hcount := hnumbering.count_keys_le_one message.seq
      simp only [keys, Queue.held, hworker] at hcount howners
      obtain _ | @⟨_, ticket, _, left, ⟨q, hq, hqseq, hticket⟩, hleft⟩ := howners
      obtain rfl := hnumbering.pending_eq htracked.balanced hq hp (hqseq.trans hseq.symm)
      refine ⟨left, by simp [queues, Step.answers, hticket], ?_⟩
      simp only [Generic.apply_pending, Generic.apply_queue, Generic.forget_queue, afterwards_queue,
        Queue.held]
      refine owners_forget (fun other hmem heq => ?_) hleft
      have hheld : 0 < (t.handler.queue.waiting.map (·.seq)).count message.seq :=
        List.count_pos_iff.mpr (heq ▸ List.mem_map_of_mem hmem)
      simp at hcount
      omega
  | unmatched hworker hpending =>
      obtain ⟨p, hsome⟩ := htracked.balanced.exists_pending hworker
      simp [hpending] at hsome
  | stopped hworker hshut hcalls =>
      refine ⟨rest, by simp [queues, Step.answers], ?_⟩
      simpa [Queue.held, hworker, withQueue] using howners
  | closed => exact ⟨rest, by simp [queues, Step.answers], howners⟩
  | abandoned hworker => contradiction

theorem Effect.isDropped_eq_false (h : t.Effect s next events) (hlive : next.isDropped = false) :
    t.isDropped = false := by
  cases h with
  | abandoned hworker => contradiction
  | rejected | entered | numbered | recorded | submitted | refused | bereft | subscribed | started
  | popped | answered | unmatched | stopped | closed => exact hlive

theorem Effect.isDropped_of_isDropped (h : t.Effect s next events) (hdropped : t.isDropped = true) :
    next.isDropped = true := by
  cases hnext : next.isDropped with
  | true => rfl
  | false => exact (h.isDropped_eq_false hnext).symm.trans hdropped

theorem Effect.ne_work (h : t.Effect s next events) (hstopped : t.handler.queue.worker = .stopped)
    (step : Queue.Step) : s ≠ .work step := by
  rintro rfl
  cases h with
  | started hworker | popped hworker | answered hworker | unmatched hworker | stopped hworker =>
      simp [hstopped] at hworker

theorem Effect.serves_nothing (h : t.Effect s next events) (hbalanced : t.Balanced)
    (hdropped : next.isDropped = true) : t.queues s = [] ∧ s.answers events = [] := by
  have hshut := hbalanced.isShut_of_isDropped
  have hstopped := hbalanced.stopped_of_isDropped
  cases h with
  | submitted hcallers hopen => simp [hshut hdropped] at hopen
  | answered hworker hpending hresult => simp [hstopped hdropped] at hworker
  | unmatched hworker hpending => simp [hstopped hdropped] at hworker
  | refused hcallers hclosed hpending => simp [queues_advance hcallers, Step.answers, hclosed]
  | bereft hcallers hclosed hpending => simp [queues_advance hcallers, Step.answers, hclosed]
  | numbered hcallers => simp [queues, Step.answers, hcallers]
  | recorded hcallers => simp [queues, Step.answers, hcallers]
  | rejected | entered | subscribed | started | popped | stopped | closed | abandoned =>
      simp [queues, Step.answers]

/-- Popping takes from what waits, and answering from what has been popped. -/
theorem Effect.pops (h : t.Effect s next events) (hbalanced : t.Balanced) :
    (t.queues s).length + t.handler.queue.waiting.length =
        (if s.isPop then 1 else 0) + next.handler.queue.waiting.length ∧
      (s.answers events).length + next.handler.queue.inFlight =
        (if s.isPop then 1 else 0) + t.handler.queue.inFlight := by
  cases h with
  | submitted hcallers hopen =>
      simp [queues_advance hcallers, Step.answers, Step.isPop, hopen, withQueue, Queue.inFlight]
      omega
  | refused hcallers hshut hpending =>
      simp [queues_advance hcallers, Step.answers, Step.isPop, hshut]
  | bereft hcallers hshut hpending =>
      simp [queues_advance hcallers, Step.answers, Step.isPop, hshut]
  | numbered hcallers => simp [queues, Step.answers, Step.isPop, hcallers, Generic.allocate]
  | recorded hcallers => simp [queues, Step.answers, Step.isPop, hcallers, Generic.record]
  | started hworker hopening =>
      simp [queues, Step.answers, Step.isPop, withQueue, Queue.inFlight, hworker]
  | popped hworker hwaiting hopen hgiven =>
      simp [queues, Step.answers, Step.isPop, withQueue, Queue.inFlight, hworker, hwaiting]
      omega
  | answered hworker hpending hresult =>
      simp [queues, Step.answers, Step.isPop, Queue.inFlight, hworker]
  | unmatched hworker hpending =>
      obtain ⟨p, hsome⟩ := hbalanced.exists_pending hworker
      simp [hpending] at hsome
  | stopped hworker hshut hcalls =>
      simp [queues, Step.answers, Step.isPop, withQueue, Queue.inFlight, hworker]
  | rejected | entered | subscribed | closed | abandoned =>
      simp [queues, Step.answers, Step.isPop, Generic.subscribe, withQueue, Queue.inFlight]

/-- Calls and pending commands are about commands that have been offered. -/
structure Known (t : Traffic) : Prop where
  callers : ∀ c ∈ t.callers, c.command ∈ t.offered
  pending : ∀ p ∈ t.handler.pending, p.command ∈ t.offered

theorem Effect.known (h : t.Effect s next events) (hknown : t.Known) : next.Known := by
  obtain ⟨hknown, hpending⟩ := hknown
  cases h with
  | rejected hinvalid =>
      exact ⟨fun c hc => List.mem_append_left _ (hknown c hc),
        fun p hp => List.mem_append_left _ (hpending p hp)⟩
  | entered hvalid =>
      refine ⟨fun c hc => ?_, fun p hp => List.mem_append_left _ (hpending p hp)⟩
      simp only [List.mem_append, List.mem_singleton] at hc ⊢
      exact hc.imp (hknown c) (congrArg Caller.command)
  | numbered hcallers =>
      simp only [hcallers, List.forall_mem_append, List.forall_mem_cons] at hknown
      obtain ⟨hbefore, hcommand, hafter⟩ := hknown
      refine ⟨List.forall_mem_append.mpr ⟨hbefore, List.forall_mem_cons.mpr ⟨hcommand, hafter⟩⟩,
        hpending⟩
  | recorded hcallers =>
      simp only [hcallers, List.forall_mem_append, List.forall_mem_cons] at hknown
      obtain ⟨hbefore, hcommand, hafter⟩ := hknown
      refine ⟨List.forall_mem_append.mpr ⟨hbefore, List.forall_mem_cons.mpr ⟨hcommand, hafter⟩⟩,
        List.forall_mem_append.mpr ⟨hpending, List.forall_mem_singleton.mpr hcommand⟩⟩
  | submitted hcallers hopen =>
      simp only [hcallers, List.forall_mem_append, List.forall_mem_cons] at hknown
      obtain ⟨hbefore, -, hafter⟩ := hknown
      exact ⟨List.forall_mem_append.mpr ⟨hbefore, hafter⟩, hpending⟩
  | refused hcallers hshut hfound =>
      simp only [hcallers, List.forall_mem_append, List.forall_mem_cons] at hknown
      obtain ⟨hbefore, -, hafter⟩ := hknown
      exact ⟨List.forall_mem_append.mpr ⟨hbefore, hafter⟩,
        fun p hp => hpending p (Generic.mem_of_mem_forget hp)⟩
  | bereft hcallers hshut hfound =>
      simp only [hcallers, List.forall_mem_append, List.forall_mem_cons] at hknown
      obtain ⟨hbefore, -, hafter⟩ := hknown
      exact ⟨List.forall_mem_append.mpr ⟨hbefore, hafter⟩, hpending⟩
  | answered hworker hfound hresult =>
      refine ⟨hknown, fun p hp => ?_⟩
      rw [Generic.apply_pending] at hp
      exact hpending p (Generic.mem_of_mem_forget hp)
  | abandoned hworker => exact ⟨hknown, by simp⟩
  | subscribed | started | popped | unmatched | stopped | closed => exact ⟨hknown, hpending⟩

/-- The command of a recorded call is the one that is pending under its number. -/
theorem Tracked.pending?_of_recorded (htracked : t.Tracked defaultAdapter)
    (hlive : t.isDropped = false) (command : Command) (seq : Nat)
    (hmem : ⟨command, .recorded seq⟩ ∈ t.callers) :
    t.handler.pending? seq = some ⟨seq, command.payload.kind, command⟩ := by
  obtain ⟨n, hnumbering⟩ := htracked.numbering
  have hrecord := htracked.matched.record_of_caller hlive command seq hmem
  rw [Generic.pending?, ← List.head?_filter,
    filter_eq_singleton (hnumbering.pending_nodup htracked.balanced) hrecord rfl, List.head?_cons]

/-! ### Where commands are completed -/

theorem Effect.completions_offer {command : Command} (h : t.Effect (.offer command) next events) :
    Event.completions events = match t.handler.validate command.payload with
      | .error why => [(command.ticket, .failure command.payload.kind why)]
      | .ok () => [] := by
  cases h with
  | rejected hinvalid => simp [hinvalid, Generic.fail]
  | entered hvalid => simp [hvalid]

theorem Effect.completions_advance {place : Nat} {caller : Caller}
    (h : t.Effect (.advance place) next events) (htracked : t.Tracked defaultAdapter)
    (hlive : t.isDropped = false) (hplace : t.callers[place]? = some caller) :
    Event.completions events = match caller.progress with
      | .recorded _ =>
        if t.handler.queue.isShut then
          [(caller.command.ticket, .failure caller.command.payload.kind .hardwareUnavailable)]
        else []
      | _ => [] := by
  cases h with
  | numbered hcallers =>
      obtain rfl : _ = caller := by simpa [hcallers] using hplace
      rfl
  | recorded hcallers =>
      obtain rfl : _ = caller := by simpa [hcallers] using hplace
      rfl
  | submitted hcallers hopen =>
      obtain rfl : _ = caller := by simpa [hcallers] using hplace
      simp [hopen]
  | @refused before after command seq p hcallers hshut hpending =>
      obtain rfl : _ = caller := by simpa [hcallers] using hplace
      rw [htracked.pending?_of_recorded hlive command seq (by simp [hcallers]),
        Option.some_inj] at hpending
      simp [hshut, Generic.fail, ← hpending]
  | @bereft before after command seq hcallers hshut hpending =>
      rw [htracked.pending?_of_recorded hlive command seq (by simp [hcallers])] at hpending
      contradiction

theorem Effect.completions_abandon (h : t.Effect .abandon next events)
    (htracked : t.Tracked defaultAdapter) :
    t.handler.queue.worker = .stopped ∧
      Event.completions events = t.handler.pending.map fun p =>
        (p.command.ticket, .failure p.command.payload.kind .hardwareUnavailable) := by
  cases h with
  | abandoned hworker =>
      refine ⟨hworker, ?_⟩
      have hkind := htracked.matched.kind_eq
      simp only [Generic.fail, Event.completions, List.filterMap_map]
      rw [← List.filterMap_eq_map]
      refine List.filterMap_congr fun p hp => ?_
      simp [hkind p hp]

def Step.completes : Step → Bool
  | .offer _ | .advance _ | .work (.finish _) | .abandon => true
  | _ => false

theorem Effect.completions_of_not_completes (h : t.Effect s next events)
    (hstep : s.completes = false) : Event.completions events = [] := by
  cases h with
  | subscribed | closed => rfl
  | started hworker hopening => simp [Event.completions]
  | popped hworker hwaiting hopen hgiven => simp
  | stopped hworker hshut hcalls => simp
  | rejected | entered | numbered | recorded | submitted | refused | bereft | answered | unmatched
  | abandoned => simp [Step.completes] at hstep

/-- Without calls, the pending commands are the owners of what the queue holds. -/
theorem Tracked.pending_perm (htracked : t.Tracked defaultAdapter) (hlive : t.isDropped = false)
    (hcallers : t.callers = []) {rest : List Nat}
    (howners : List.Forall₂ (Owner t.handler.pending) t.handler.queue.held rest) :
    (t.handler.pending.map (·.command.ticket)).Perm rest := by
  obtain ⟨n, hnumbering⟩ := htracked.numbering
  have hseqs : (t.handler.pending.map (·.seq)).Perm (t.handler.queue.held.map (·.seq)) := by
    rw [List.perm_iff_count]
    intro seq
    rw [htracked.balanced.count_eq hlive, owing, recordedSeqs, hcallers, List.flatMap_nil,
      List.nil_append]
  let ticketOf (seq : Nat) : Nat := (t.handler.pending? seq).elim 0 (·.command.ticket)
  have hpending : ∀ p ∈ t.handler.pending, ticketOf p.seq = p.command.ticket := by
    intro p hp
    simp only [ticketOf, Generic.pending?, ← List.head?_filter]
    rw [filter_eq_singleton (hnumbering.pending_nodup htracked.balanced) hp rfl]
    rfl
  have hheld : t.handler.queue.held.map (ticketOf ·.seq) = rest := by
    rw [← List.forall₂_eq_eq_eq, List.forall₂_map_left_iff]
    refine howners.imp fun message ticket howner => ?_
    obtain ⟨p, hp, hseq, hticket⟩ := howner
    rw [← hseq, hpending p hp, hticket]
  calc
    t.handler.pending.map (·.command.ticket) = (t.handler.pending.map (·.seq)).map ticketOf := by
      rw [List.map_map]
      exact List.map_congr_left fun p hp => (hpending p hp).symm
    List.Perm _ ((t.handler.queue.held.map (·.seq)).map ticketOf) := hseqs.map ticketOf
    _ = rest := by rw [List.map_map, ← hheld]; rfl

end Traffic

def Moment.queued (m : Moment) : List Nat := m.before.queues m.step

def Moment.answered (m : Moment) : List Nat := m.step.answers m.events

namespace History

/-- The tickets of the commands that have been queued, in that order. -/
def queued (h : History) : List Nat := h.past.flatMap (·.queued)

/-- The tickets of the commands that have been completed with a reply, in that order. -/
def answered (h : History) : List Nat := h.past.flatMap (·.answered)

def popped (h : History) : Nat := h.past.countP (·.step.isPop)

/-- The bookkeeping behind the order of replies. -/
structure Served (h : History) : Prop where
  length_queued : h.queued.length = h.popped + h.now.handler.queue.waiting.length
  length_answered : h.answered.length + h.now.handler.queue.inFlight = h.popped
  queued_eq : ∃ rest, h.queued = h.answered ++ rest ∧ (h.now.isDropped = false →
    List.Forall₂ (Owner h.now.handler.pending) h.now.handler.queue.held rest)

theorem Served.extend {h : History} {s : Traffic.Step} {next : Traffic} {events : List Event}
    {defaultAdapter : String} (hserved : h.Served) (htracked : h.now.Tracked defaultAdapter)
    (heffect : h.now.Effect s next events) :
    Served ⟨next, h.past ++ [⟨h.now, s, events⟩]⟩ := by
  obtain ⟨hqueued, hanswered, rest, hrest, howners⟩ := hserved
  obtain ⟨hwaiting, hflight⟩ := heffect.pops htracked.balanced
  have hqueues : queued ⟨next, h.past ++ [⟨h.now, s, events⟩]⟩ = h.queued ++ h.now.queues s := by
    simp [queued, Moment.queued]
  have hanswers : answered ⟨next, h.past ++ [⟨h.now, s, events⟩]⟩ =
      h.answered ++ s.answers events := by
    simp [answered, Moment.answered]
  have hpops : popped ⟨next, h.past ++ [⟨h.now, s, events⟩]⟩ =
      h.popped + if s.isPop then 1 else 0 := by
    simp [popped, List.countP_cons]
  refine ⟨?_, ?_, ?_⟩
  · rw [hqueues, hpops, List.length_append]
    dsimp only
    omega
  · rw [hanswers, hpops, List.length_append]
    dsimp only
    omega
  · rw [hqueues, hanswers, hrest]
    cases hdropped : next.isDropped with
    | false =>
        obtain ⟨left, hleft, howners⟩ := heffect.serves htracked hdropped
          (howners (heffect.isDropped_eq_false hdropped))
        exact ⟨left, by rw [List.append_assoc, hleft, List.append_assoc], fun _ => howners⟩
    | true =>
        obtain ⟨hqueues, hanswers⟩ := heffect.serves_nothing htracked.balanced hdropped
        exact ⟨rest, by simp [hqueues, hanswers], by simp⟩

/-- All that is remembered of a history: the present, and at each moment what its step could do. -/
structure Recalled (defaultAdapter : String) (h : History) : Prop where
  tracked : h.now.Tracked defaultAdapter
  known : h.now.Known
  served : h.Served
  effects : ∀ m ∈ h.past, ∃ next, m.before.Effect m.step next m.events
  tracked_before : ∀ m ∈ h.past, m.before.Tracked defaultAdapter
  known_before : ∀ m ∈ h.past, ∀ p ∈ m.before.handler.pending, p.command ∈ h.now.offered
  isDropped : ∀ m ∈ h.past, m.step = .abandon → h.now.isDropped = true
  last : h.past.Pairwise fun m later => m.step = .abandon → ∀ s, later.step ≠ .work s

theorem recalled_begin (defaultAdapter : String) :
    Recalled defaultAdapter (begin defaultAdapter) where
  tracked := Traffic.tracked_begin defaultAdapter
  known := ⟨by simp [begin], by simp [begin]⟩
  served := ⟨rfl, rfl, [], rfl, fun _ => .nil⟩
  effects := by simp [begin]
  tracked_before := by simp [begin]
  known_before := by simp [begin]
  isDropped := by simp [begin]
  last := .nil

theorem Recalled.extend {h : History} {s : Traffic.Step} {next : Traffic} {events : List Event}
    {defaultAdapter : String} (hrecalled : h.Recalled defaultAdapter)
    (heffect : h.now.Effect s next events) (hbound : next.offered.length < UInt64.size) :
    Recalled defaultAdapter ⟨next, h.past ++ [⟨h.now, s, events⟩]⟩ := by
  obtain ⟨htracked, hknown, hserved, heffects, htracks, hknows, hdropped, hlast⟩ := hrecalled
  refine ⟨heffect.tracked htracked hbound, heffect.known hknown, hserved.extend htracked heffect,
    List.forall_mem_append.mpr ⟨heffects, List.forall_mem_singleton.mpr ⟨next, heffect⟩⟩,
    List.forall_mem_append.mpr ⟨htracks, List.forall_mem_singleton.mpr htracked⟩, ?_, ?_, ?_⟩
  · have hgrow : ∀ command ∈ h.now.offered, command ∈ next.offered := by
      rw [heffect.offered]
      exact fun command hmem => List.mem_append_left _ hmem
    exact List.forall_mem_append.mpr ⟨fun m hm p hp => hgrow _ (hknows m hm p hp),
      List.forall_mem_singleton.mpr fun p hp => hgrow _ (hknown.pending p hp)⟩
  · refine List.forall_mem_append.mpr ⟨fun m hm habandon => ?_, List.forall_mem_singleton.mpr ?_⟩
    · exact heffect.isDropped_of_isDropped (hdropped m hm habandon)
    · rintro rfl
      cases heffect
      rfl
  · refine List.pairwise_append.mpr
      ⟨hlast, List.pairwise_singleton _ _, fun m hm later hlater => ?_⟩
    obtain rfl := List.mem_singleton.mp hlater
    intro habandon
    exact heffect.ne_work (htracked.balanced.stopped_of_isDropped (hdropped m hm habandon))

end History

theorem history_recalled (defaultAdapter : String) (schedule : List Traffic.Step)
    (hbound : (history defaultAdapter schedule).now.offered.length < UInt64.size) :
    (history defaultAdapter schedule).Recalled defaultAdapter := by
  refine History.follow_invariant
    (P := fun h => h.now.offered.length < UInt64.size → h.Recalled defaultAdapter)
    (fun h s next events hrecalled heffect hbound => ?_)
    (fun _ => History.recalled_begin defaultAdapter) schedule hbound
  refine (hrecalled ?_).extend heffect hbound
  rw [heffect.offered, List.length_append] at hbound
  omega

namespace History

theorem Conserved.completed_subperm {h : History} (hconserved : h.Conserved) :
    h.completed.Subperm (h.now.offered.map (·.ticket)) :=
  (List.sublist_append_left _ _).subperm.trans hconserved.subperm

theorem Conserved.completed_perm {h : History} (hconserved : h.Conserved)
    (hbalanced : h.now.Balanced) (hdropped : h.now.isDropped = true)
    (hcallers : h.now.callers = []) : h.completed.Perm (h.now.offered.map (·.ticket)) := by
  simpa [Conserved, hbalanced.underway_eq_nil hdropped hcallers] using hconserved

theorem completed_eq (h : History) : h.completed = (Event.completions h.events).map (·.1) := by
  unfold completed completions events Moment.completions
  induction h.past with
  | nil => rfl
  | cons m past ih => simpa using ih

/-- Dropping the handler is one more schedule, after which everything is completed. -/
theorem Conserved.drop_perm {h : History} (hconserved : h.Conserved) (hbalanced : h.now.Balanced)
    (hcallers : h.now.callers = []) (hardware : Hardware) :
    (h.completed ++ (Event.completions (h.now.handler.drop hardware).2).map (·.1)).Perm
      (h.now.offered.map (·.ticket)) := by
  obtain ⟨schedule, hnow, hevents⟩ :=
    (Traffic.drop_leads hardware h.now).exists_schedule h rfl
  have hperm := (hconserved.follow schedule).completed_perm (balanced_follow hbalanced schedule)
    (by rw [hnow]) (by rw [hnow, hcallers])
  rwa [completed_eq, hevents, Event.completions_append, List.map_append, ← completed_eq, hnow]
    at hperm

/-- How the commands of a handler have been completed until now. -/
structure Completes (defaultAdapter : String) (h : History) : Prop where
  /-- No command is completed twice. -/
  once : h.completed.Subperm (h.now.offered.map (·.ticket))
  /-- When the handler has been dropped and all calls have returned, every command is completed. -/
  complete : h.now.isDropped = true → h.now.callers = [] →
    h.completed.Perm (h.now.offered.map (·.ticket))
  /-- Wherever the worker is, dropping the handler completes what is left. -/
  drop_completes : h.now.callers = [] → ∀ hardware,
    (h.completed ++ (Event.completions (h.now.handler.drop hardware).2).map (·.1)).Perm
      (h.now.offered.map (·.ticket))
  /-- An invalid command is completed in the call that offers it. -/
  offering : ∀ m ∈ h.past, ∀ command, m.step = .offer command →
    m.completions = match m.before.handler.validate command.payload with
      | .error why => [(command.ticket, .failure command.payload.kind why)]
      | .ok () => []
  /-- A valid one is, if its call comes too late for the queue. -/
  advancing : ∀ m ∈ h.past, ∀ place caller, m.step = .advance place →
    m.before.callers[place]? = some caller → m.before.isDropped = false →
    m.completions = match caller.progress with
      | .recorded _ =>
        if m.before.handler.queue.isShut then
          [(caller.command.ticket, .failure caller.command.payload.kind .hardwareUnavailable)]
        else []
      | _ => []
  /-- A reply completes the command that it answers, and no other. -/
  finishing : ∀ m ∈ h.past, ∀ answer, m.step = .work (.finish answer) →
    ∃ fault? message p, m.before.handler.queue.worker = .busy fault? message ∧
      p ∈ m.before.handler.pending ∧ p.command ∈ h.now.offered ∧
      message = .ofPayload p.seq defaultAdapter p.command.payload ∧
      m.completions =
        [(p.command.ticket, Generic.resultOf p (Queue.outcomeFor fault? message answer))]
  /-- Replies complete commands in the order in which they were queued, -/
  ordered : h.answered <+: h.queued
  /-- and unless the worker is busy, all that it has popped. -/
  length_answered : h.now.handler.queue.inFlight = 0 → h.answered.length = h.popped
  /-- The commands that are pending when no call is under way are those that were queued and not
  replied to. -/
  pending_perm : h.now.isDropped = false → h.now.callers = [] →
    (h.now.handler.pending.map (·.command.ticket)).Perm (h.queued.drop h.answered.length)
  /-- They are completed at the end, when the worker has stopped, with unavailable hardware. -/
  abandoning : ∀ m ∈ h.past, m.step = .abandon →
    m.before.handler.queue.worker = .stopped ∧
      m.completions = m.before.handler.pending.map fun p =>
        (p.command.ticket, .failure p.command.payload.kind .hardwareUnavailable)
  /-- No other step completes a command. -/
  silent : ∀ m ∈ h.past, m.step.completes = false → m.completions = []
  /-- After the end the worker does nothing. -/
  last : h.past.Pairwise fun m later => m.step = .abandon → ∀ s, later.step ≠ .work s

end History

/-- Every command is completed exactly once, in its place and in its turn, however calls, the worker
and the end of the handler overlap. -/
theorem commands_complete (defaultAdapter : String) (schedule : List Traffic.Step)
    (hbound : (history defaultAdapter schedule).now.offered.length < UInt64.size) :
    (history defaultAdapter schedule).Completes defaultAdapter := by
  obtain ⟨htracked, hknown, hserved, heffects, htracks, hknows, -, hlast⟩ :=
    history_recalled defaultAdapter schedule hbound
  obtain ⟨rest, hrest, howners⟩ := hserved.queued_eq
  have hconserved := history_conserved defaultAdapter schedule
  have hbalanced := htracked.balanced
  exact {
    once := hconserved.completed_subperm
    complete := hconserved.completed_perm hbalanced
    drop_completes := fun hcallers hardware => hconserved.drop_perm hbalanced hcallers hardware
    offering := fun m hm command hstep => by
      obtain ⟨next, heffect⟩ := heffects m hm
      exact (hstep ▸ heffect).completions_offer
    advancing := fun m hm place caller hstep hplace hlive => by
      obtain ⟨next, heffect⟩ := heffects m hm
      exact (hstep ▸ heffect).completions_advance (htracks m hm) hlive hplace
    finishing := fun m hm answer hstep => by
      obtain ⟨next, heffect⟩ := heffects m hm
      obtain ⟨fault?, message, p, hworker, hfilter, hmessage, -, hcompletions⟩ :=
        (htracks m hm).exists_answered (hstep ▸ heffect)
      obtain ⟨hp, hseq⟩ := List.mem_filter.mp (hfilter ▸ List.mem_singleton_self p)
      have hseq : p.seq = message.seq := of_decide_eq_true hseq
      exact ⟨fault?, message, p, hworker, hp, hknows m hm p hp, hseq ▸ hmessage, hcompletions⟩
    ordered := ⟨rest, hrest.symm⟩
    length_answered := fun hidle => by
      have hanswered := hserved.length_answered
      omega
    pending_perm := fun hlive hcallers => by
      rw [hrest, List.drop_left]
      exact htracked.pending_perm hlive hcallers (howners hlive)
    abandoning := fun m hm hstep => by
      obtain ⟨next, heffect⟩ := heffects m hm
      exact (hstep ▸ heffect).completions_abandon (htracks m hm)
    silent := fun m hm hstep => by
      obtain ⟨next, heffect⟩ := heffects m hm
      exact heffect.completions_of_not_completes hstep
    last := hlast }

/-- An invalid command, one that is in flight when the handler is dropped, and one that waits. -/
def droppedInFlight : List Traffic.Step :=
  [.offer ⟨0, .scan (some "gone")⟩, .offer ⟨1, .listAdapters⟩, .advance 0, .advance 0, .advance 0,
    .offer ⟨2, .scan none⟩, .advance 0, .advance 0, .advance 0, .work (.start (.ok ())), .work .pop,
    .shut, .work (.finish (.ok (.lines []))), .work .stop, .abandon]

theorem droppedInFlight_commands_complete :
    (history "RPI" droppedInFlight).now.offered.length < UInt64.size ∧
      (history "RPI" droppedInFlight).now.isDropped = true ∧
      (history "RPI" droppedInFlight).completed = [0, 1, 2] ∧
      (history "RPI" droppedInFlight).answered = [1] ∧
      (history "RPI" droppedInFlight).Completes "RPI" :=
  ⟨by decide, by decide, by decide, by decide, commands_complete "RPI" droppedInFlight (by decide)⟩

end CecGateway
