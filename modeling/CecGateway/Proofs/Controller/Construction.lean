import CecGateway.Proofs.Controller.Calls
import CecGateway.Proofs.Traffic.Correlation

/-!
# Building the chain

Registrations wait in the order of a stable sort by rank until the chain is asked for. Then every
factory is run, once and in that order, and the chain holds what could be built. No later call runs
a factory or changes which handlers there are (`chain_is_built_once`).
-/

namespace CecGateway

/-! ## The order of registrations -/

namespace Registration

def isBefore (r other : Registration) : Bool := r.rank.level ≤ other.rank.level

/-- The stable sort by rank. -/
def sorted (registrations : List Registration) : List Registration :=
  registrations.mergeSort isBefore

theorem isBefore_trans (a b c : Registration) (hab : a.isBefore b = true)
    (hbc : b.isBefore c = true) : a.isBefore c = true := by
  simp only [isBefore, decide_eq_true_eq] at *
  omega

theorem isBefore_total (a b : Registration) : (a.isBefore b || b.isBefore a) = true := by
  simp only [isBefore, Bool.or_eq_true, decide_eq_true_eq]
  omega

variable {registrations others : List Registration} {r : Registration}

theorem pairwise_sorted (registrations : List Registration) :
    (sorted registrations).Pairwise (·.isBefore ·) :=
  List.pairwise_mergeSort isBefore_trans isBefore_total registrations

/-- Among registrations of one rank, sorting changes nothing. -/
theorem filter_sorted (registrations : List Registration) (level : Nat) :
    (sorted registrations).filter (·.rank.level = level) =
      registrations.filter (·.rank.level = level) := by
  have hordered : (registrations.filter (·.rank.level = level)).Pairwise (·.isBefore ·) := by
    refine List.pairwise_of_forall_mem_list fun a ha b hb => ?_
    simp only [List.mem_filter, decide_eq_true_eq] at ha hb
    simp [isBefore, ha.2, hb.2]
  have hkept : (registrations.filter (·.rank.level = level)).Sublist (sorted registrations) :=
    List.sublist_mergeSort isBefore_trans isBefore_total hordered List.filter_sublist
  have hsublist := hkept.filter (·.rank.level = level)
  rw [List.filter_filter] at hsublist
  simp only [Bool.and_self] at hsublist
  exact (hsublist.eq_of_length
    ((List.mergeSort_perm registrations isBefore).filter _).length_eq.symm).symm

theorem mem_iff_of_filter_eq (hfilter : ∀ level, registrations.filter (·.rank.level = level) =
    others.filter (·.rank.level = level)) : r ∈ registrations ↔ r ∈ others := by
  have hlevel := congrArg (r ∈ ·) (hfilter r.rank.level)
  simpa using hlevel

/-- A list in the order of ranks is determined by its registrations of each rank. -/
theorem eq_of_filter_eq (hordered : registrations.Pairwise (·.isBefore ·))
    (hothers : others.Pairwise (·.isBefore ·))
    (hfilter : ∀ level, registrations.filter (·.rank.level = level) =
      others.filter (·.rank.level = level)) : registrations = others := by
  induction registrations generalizing others with
  | nil =>
      refine (List.eq_nil_iff_forall_not_mem.mpr fun a ha => ?_).symm
      exact List.not_mem_nil ((mem_iff_of_filter_eq hfilter).mpr ha)
  | cons a rest ih =>
      cases others with
      | nil => exact absurd ((mem_iff_of_filter_eq hfilter).mp List.mem_cons_self) List.not_mem_nil
      | cons b otherRest =>
          rw [List.pairwise_cons] at hordered hothers
          -- both heads are of the least rank
          have hlevel : a.rank.level = b.rank.level := by
            have ha : a ∈ b :: otherRest := (mem_iff_of_filter_eq hfilter).mp List.mem_cons_self
            have hb : b ∈ a :: rest := (mem_iff_of_filter_eq hfilter).mpr List.mem_cons_self
            have hba := (List.mem_cons.mp ha).imp_right (hothers.1 a)
            have hab := (List.mem_cons.mp hb).imp_right (hordered.1 b)
            simp only [isBefore, decide_eq_true_eq] at hba hab
            grind
          have hheads := hfilter a.rank.level
          rw [List.filter_cons_of_pos (by simp),
            List.filter_cons_of_pos (by simp [hlevel])] at hheads
          obtain ⟨rfl, -⟩ := List.cons.inj hheads
          refine congrArg (a :: ·) (ih hordered.2 hothers.2 fun level => ?_)
          by_cases hsame : a.rank.level = level
          · have htails := hfilter level
            rw [List.filter_cons_of_pos (by simp [hsame]),
              List.filter_cons_of_pos (by simp [hsame])] at htails
            exact (List.cons.inj htails).2
          · have htails := hfilter level
            rw [List.filter_cons_of_neg (by simp [hsame]),
              List.filter_cons_of_neg (by simp [hsame])] at htails
            exact htails

/-- Behind the registrations of no higher rank there are only those of a higher one. -/
theorem isBefore_eq_false_of_mem_dropWhile (hordered : registrations.Pairwise (·.isBefore ·)) :
    ∀ other ∈ registrations.dropWhile (·.isBefore r), other.isBefore r = false := by
  induction registrations with
  | nil => simp
  | cons a rest ih =>
      rw [List.pairwise_cons] at hordered
      cases hbefore : a.isBefore r with
      | true =>
          simp only [List.dropWhile_cons, hbefore, if_true]
          exact ih hordered.2
      | false =>
          simp only [List.dropWhile_cons, hbefore, Bool.false_eq_true, if_false]
          intro other hother
          obtain rfl | hrest := List.mem_cons.mp hother
          · exact hbefore
          · have hafter := hordered.1 other hrest
            simp only [isBefore, decide_eq_true_eq, decide_eq_false_iff_not] at hafter hbefore ⊢
            omega

/-- Among registrations of one rank, one that is put in front of those of a higher rank is the
last. -/
theorem filter_insert {low high : List Registration}
    (hafter : ∀ other ∈ high, other.isBefore r = false) (level : Nat) :
    (low ++ r :: high).filter (·.rank.level = level) =
      (low ++ high).filter (·.rank.level = level) ++ [r].filter (·.rank.level = level) := by
  by_cases hlevel : r.rank.level = level
  · have hnone : high.filter (·.rank.level = level) = [] := by
      refine List.filter_eq_nil_iff.mpr fun other hother hsame => ?_
      have hother := hafter other hother
      simp only [isBefore, decide_eq_false_iff_not, decide_eq_true_eq] at hother hsame
      omega
    simp [hnone, hlevel]
  · simp [hlevel]

/-- To sort with one more registration at the end is to put it behind those of no higher rank. -/
theorem sorted_concat (registrations : List Registration) (r : Registration) :
    sorted (registrations ++ [r]) =
      (sorted registrations).takeWhile (·.isBefore r) ++
        r :: (sorted registrations).dropWhile (·.isBefore r) := by
  have hordered := pairwise_sorted registrations
  have hbefore : ∀ other ∈ (sorted registrations).takeWhile (·.isBefore r),
      other.isBefore r = true := List.all_eq_true.mp List.all_takeWhile
  have hafter := isBefore_eq_false_of_mem_dropWhile (r := r) hordered
  have hsplit : (sorted registrations).takeWhile (·.isBefore r) ++
      (sorted registrations).dropWhile (·.isBefore r) = sorted registrations :=
    List.takeWhile_append_dropWhile
  have hinserted : ((sorted registrations).takeWhile (·.isBefore r) ++
      r :: (sorted registrations).dropWhile (·.isBefore r)).Pairwise (·.isBefore ·) := by
    rw [← hsplit] at hordered
    obtain ⟨hlow, hhigh, hacross⟩ := List.pairwise_append.mp hordered
    refine List.pairwise_append.mpr ⟨hlow, List.pairwise_cons.mpr ⟨fun other hother => ?_, hhigh⟩,
      fun a ha b hb => ?_⟩
    · simpa [hafter other hother] using isBefore_total r other
    · obtain rfl | hb := List.mem_cons.mp hb
      · exact hbefore a ha
      · exact hacross a ha b hb
  refine eq_of_filter_eq (pairwise_sorted _) hinserted fun level => ?_
  rw [filter_insert hafter, hsplit, filter_sorted, filter_sorted, List.filter_append]

/-- Whether the factory builds a handler when it sees no device. -/
def isBuildable (r : Registration) : Bool := (r.factory fun _ => none).isOk

end Registration

theorem Controller.register_of_sorted {c : Controller} {made : List Registration}
    (hsorted : c.registrations = Registration.sorted made) (r : Registration) :
    (c.register r).registrations = Registration.sorted (made ++ [r]) := by
  rw [Registration.sorted_concat, ← hsorted]
  rfl

/-! ## Which handler it is -/

theorem Traffic.Leads.defaultAdapter {t next : Traffic} {allowed : Step → Bool}
    {events : List Event} (h : t.Leads allowed events next) :
    next.handler.defaultAdapter = t.handler.defaultAdapter := by
  induction h with
  | refl t => rfl
  | step _ hstep _ ih => exact ih.trans (effect_of_step hstep).defaultAdapter

namespace Handler

/-- The handler without what it has taken in since it was built. -/
def bare : Handler → Handler
  | lgTelevision => lgTelevision
  | generic g => generic { defaultAdapter := g.defaultAdapter }
  | custom c => custom { c with offers := [] }

theorem rank_bare (h : Handler) : h.bare.rank = h.rank := by cases h <;> rfl

theorem bare_settle (hardware : Hardware) (g : Generic) :
    bare (generic (g.settle hardware false).1) = bare (generic g) :=
  congrArg (fun defaultAdapter => generic { defaultAdapter })
    (Traffic.settle_leads hardware false { handler := g }).defaultAdapter

theorem bare_handle (g : Generic) (command : Command) :
    bare (generic (g.handle command).1) = bare (generic g) :=
  congrArg (fun defaultAdapter => generic { defaultAdapter })
    (Traffic.handle_leads { handler := g } command).defaultAdapter

theorem bare_start (hardware : Hardware) (observers : Nat) (h : Handler) :
    (h.start hardware observers).1.bare = h.bare := by
  cases h with
  | generic g => exact bare_settle hardware { g with observers }
  | lgTelevision | custom => rfl

theorem bare_offer (hardware : Hardware) (lookup : Lookup) (command : Command) (h : Handler) :
    (h.offer hardware lookup command).1.bare = h.bare := by
  cases h with
  | lgTelevision => rfl
  | generic g => exact (bare_settle hardware (g.handle command).1).trans (bare_handle g command)
  | custom c =>
      simp only [offer]
      split <;> rfl

theorem bare_subscribe (h : Handler) : h.subscribe.bare = h.bare := by cases h <;> rfl

end Handler

namespace Chain

section

variable (hardware : Hardware) (lookup : Lookup) (ticket place observers : Nat)

theorem bare_offer (handlers : List Handler) (payload : Payload) :
    (offer hardware lookup ticket place handlers payload).1.map (·.bare) =
      handlers.map (·.bare) := by
  induction handlers generalizing place payload with
  | nil => rfl
  | cons h rest ih =>
      have hbare := h.bare_offer hardware lookup ⟨ticket, payload⟩
      rcases hoffer : h.offer hardware lookup ⟨ticket, payload⟩ with ⟨after, decision, events⟩
      rw [hoffer] at hbare
      cases decision <;> simp [offer, hoffer, hbare, ih]

theorem builds_offer (handlers : List Handler) (payload : Payload) :
    Event.builds (offer hardware lookup ticket place handlers payload).2.2 = [] := by
  induction handlers generalizing place payload with
  | nil => rfl
  | cons h rest ih =>
      have hnone := Event.builds_eq_nil (h.isControl_offer hardware lookup ⟨ticket, payload⟩)
      rcases hoffer : h.offer hardware lookup ⟨ticket, payload⟩ with ⟨after, decision, events⟩
      rw [hoffer] at hnone
      cases decision <;> simp [offer, hoffer, hnone, ih]

/-- Every factory is run, in order. -/
theorem builds_build (registrations : List Registration) :
    Event.builds (build hardware lookup observers place registrations).2 =
      List.range' place registrations.length := by
  induction registrations generalizing place with
  | nil => rfl
  | cons r rest ih =>
      cases hfactory : r.factory lookup with
      | ok h =>
          have hnone := Event.builds_eq_nil (h.isControl_start hardware observers)
          simp [build, hfactory, hnone, ih, List.range'_succ]
      | error fault => simp [build, hfactory, ih, List.range'_succ]

theorem isComplete_build (registrations : List Registration) :
    (build hardware lookup observers place registrations).1.isComplete =
      registrations.all fun r => (r.factory lookup).isOk := by
  induction registrations generalizing place with
  | nil => rfl
  | cons r rest ih =>
      cases hfactory : r.factory lookup <;>
        simp [build, hfactory, ih, Except.isOk, Except.toBool]

end

end Chain

namespace Controller

open Registration (sorted)

/-- What the factories build when they see no device. -/
def built (registrations : List Registration) : List Handler :=
  Chain.buildable (fun _ => none) (sorted registrations)

/-- The chain has not been asked for since these registrations were made. -/
structure Unbuilt (c : Controller) (made : List Registration) (seen : List Event) : Prop where
  chain?_eq : c.chain? = none
  /-- What a factory sees that is run now. -/
  device?_eq : c.device? = fun _ => none
  registrations_eq : c.registrations = sorted made
  registeredRanks_eq : c.registeredRanks = (sorted made).map (·.rank)
  builds_eq : Event.builds seen = []
  /-- Asking for the chain now runs the factories. -/
  handlers_eq : ∀ hardware,
    (c.setUp hardware).2.1.handlers =
      (built made).map fun h => (h.start hardware c.observers).1
  builds_setUp_eq : ∀ hardware,
    Event.builds (c.setUp hardware).2.2 = List.range made.length
  answer_eq : ∀ hardware, (c.step (.build hardware)).2.1 = some (made.all (·.isBuildable))

/-- The chain was built when the early registrations had been made, and the late ones have come
since. -/
structure Built (c : Controller) (early late : List Registration) (seen : List Event) : Prop where
  chain?_eq : ∃ handlers, c.chain? = some ⟨handlers, early.all (·.isBuildable)⟩ ∧
    handlers.map (·.bare) = (built early).map (·.bare)
  registrations_eq : c.registrations = sorted late
  handlerRanks_eq : c.handlerRanks = (built early).map (·.rank)
  builds_eq : Event.builds seen = List.range early.length
  builds_setUp_eq : ∀ hardware, Event.builds (c.setUp hardware).2.2 = []
  answer_eq : ∀ hardware, (c.step (.build hardware)).2.1 = some (early.all (·.isBuildable))

variable {c : Controller} {chain : Chain} {made early late : List Registration}
  {seen events : List Event}

theorem device?_of_none (hchain : c.chain? = none) : c.device? = fun _ => none := by
  funext address
  simp [device?, handlers, hchain]

theorem all_sorted (made : List Registration) :
    (sorted made).all (·.isBuildable) = made.all (·.isBuildable) :=
  (List.mergeSort_perm made _).all_eq

theorem setUp_of_sorted (hchain : c.chain? = none) (hsorted : c.registrations = sorted made)
    (hardware : Hardware) :
    (c.setUp hardware).2.1.handlers =
        (built made).map (fun h => (h.start hardware c.observers).1) ∧
      (c.setUp hardware).2.1.isComplete = made.all (·.isBuildable) ∧
      Event.builds (c.setUp hardware).2.2 = List.range made.length ∧
      (c.setUp hardware).1.registrations = [] := by
  simp only [setUp, hchain, device?_of_none hchain, hsorted, Chain.build_handlers,
    Chain.isComplete_build, Chain.builds_build]
  refine ⟨rfl, all_sorted made, ?_, trivial⟩
  rw [sorted, List.length_mergeSort, List.range_eq_range']

theorem unbuilt_of_sorted (hchain : c.chain? = none) (hsorted : c.registrations = sorted made)
    (hbuilds : Event.builds seen = []) : c.Unbuilt made seen where
  chain?_eq := hchain
  device?_eq := device?_of_none hchain
  registrations_eq := hsorted
  registeredRanks_eq := by rw [registeredRanks, hsorted]
  builds_eq := hbuilds
  handlers_eq hardware := (setUp_of_sorted hchain hsorted hardware).1
  builds_setUp_eq hardware := (setUp_of_sorted hchain hsorted hardware).2.2.1
  answer_eq hardware := congrArg some (setUp_of_sorted hchain hsorted hardware).2.1

theorem built_of_chain {handlers : List Handler}
    (hchain : c.chain? = some ⟨handlers, early.all (·.isBuildable)⟩)
    (hhandlers : handlers.map (·.bare) = (built early).map (·.bare))
    (hsorted : c.registrations = sorted late)
    (hbuilds : Event.builds seen = List.range early.length) : c.Built early late seen where
  chain?_eq := ⟨handlers, hchain, hhandlers⟩
  registrations_eq := hsorted
  handlerRanks_eq := by
    have hranks := congrArg (List.map Handler.rank) hhandlers
    simpa [handlerRanks, Controller.handlers, hchain, Function.comp_def, Handler.rank_bare]
      using hranks
  builds_eq := hbuilds
  builds_setUp_eq hardware := by rw [setUp_of_chain hchain]; rfl
  answer_eq hardware := by simp only [step, setUp_of_chain hchain]

/-! ## Runs -/

/-- The call asks for the chain. -/
def Step.builds : Step → Bool
  | .build _ | .dispatch .. => true
  | _ => false

def Step.registrations : Step → List Registration
  | .register r => [r]
  | _ => []

theorem Step.registrations_of_builds {s : Step} (hbuilds : s.builds = true) :
    s.registrations = [] := by
  cases s <;> first | rfl | contradiction

theorem builds_completeDeferred (c : Controller) : Event.builds c.completeDeferred.2 = [] := by
  simp [completeDeferred, Event.builds]

theorem Unbuilt.step (h : c.Unbuilt made seen) {s : Step} (hbuilds : s.builds = false) :
    (c.step s).1.Unbuilt (made ++ s.registrations) (seen ++ (c.step s).2.2) := by
  cases s with
  | register r =>
      exact unbuilt_of_sorted h.chain?_eq (register_of_sorted h.registrations_eq r)
        (by simpa [Controller.step] using h.builds_eq)
  | subscribe =>
      refine unbuilt_of_sorted ?_ ?_ ?_
      · simp [Controller.step, Controller.subscribe, h.chain?_eq]
      · simpa [Controller.step, Controller.subscribe, Step.registrations] using h.registrations_eq
      · simpa [Controller.step] using h.builds_eq
  | completeDeferred =>
      refine unbuilt_of_sorted h.chain?_eq ?_ ?_
      · simpa [Controller.step, completeDeferred, Step.registrations] using h.registrations_eq
      · simp [Controller.step, builds_completeDeferred, h.builds_eq]
  | build | dispatch => contradiction

/-- The first call that asks for the chain builds it. -/
theorem Unbuilt.setUp (h : c.Unbuilt made seen) (hardware : Hardware) :
    (c.setUp hardware).1.Built made [] (seen ++ (c.setUp hardware).2.2) := by
  obtain ⟨hhandlers, hcomplete, hbuilds, hnone⟩ :=
    setUp_of_sorted h.chain?_eq h.registrations_eq hardware
  have hchain : (c.setUp hardware).1.chain? =
      some ⟨(c.setUp hardware).2.1.handlers, made.all (·.isBuildable)⟩ := by
    rw [chain?_setUp, ← hcomplete]
  refine built_of_chain hchain ?_ (hnone.trans (by simp [sorted])) ?_
  · simp [hhandlers, Function.comp_def, Handler.bare_start]
  · rw [Event.builds_append, h.builds_eq, hbuilds, List.nil_append]

/-- Going along the chain leaves it as it was built. -/
theorem dispatch_built (hardware : Hardware) (command : Command)
    (h : (c.setUp hardware).1.Built early late (seen ++ (c.setUp hardware).2.2)) :
    (c.dispatch hardware command).1.Built early late
      (seen ++ (c.dispatch hardware command).2.2) := by
  obtain ⟨handlers, hchain, hhandlers⟩ := h.chain?_eq
  have hbuilt := Option.some_inj.mp ((chain?_setUp hardware c).symm.trans hchain)
  have hdispatch := dispatch_eq hardware c command
  simp only [hbuilt] at hdispatch
  rw [hdispatch]
  refine built_of_chain rfl ((Chain.bare_offer _ _ _ _ _ _).trans hhandlers) h.registrations_eq ?_
  have hlast : ∀ decision : Decision, Event.builds (decision.completion command) = [] :=
    fun decision => by cases decision <;> rfl
  rw [← List.append_assoc, Event.builds_append, h.builds_eq, Event.builds_append,
    Chain.builds_offer, hlast]
  simp

theorem Built.step (h : c.Built early late seen) (s : Step) :
    (c.step s).1.Built early (late ++ s.registrations) (seen ++ (c.step s).2.2) := by
  obtain ⟨handlers, hchain, hhandlers⟩ := h.chain?_eq
  cases s with
  | register r =>
      exact built_of_chain hchain hhandlers (register_of_sorted h.registrations_eq r)
        (by simpa [Controller.step] using h.builds_eq)
  | build hardware =>
      simpa [Controller.step, setUp_of_chain hchain, Step.registrations] using h
  | dispatch hardware command =>
      rw [Step.registrations_of_builds rfl, List.append_nil]
      exact dispatch_built hardware command (by simpa [setUp_of_chain hchain] using h)
  | subscribe =>
      have hnext : c.subscribe.chain? =
          some ⟨handlers.map (·.subscribe), early.all (·.isBuildable)⟩ := by
        simp [Controller.subscribe, hchain]
      refine built_of_chain hnext ?_ ?_ ?_
      · simpa [Function.comp_def, Handler.bare_subscribe] using hhandlers
      · simpa [Controller.step, Controller.subscribe, Step.registrations] using h.registrations_eq
      · simpa [Controller.step] using h.builds_eq
  | completeDeferred =>
      refine built_of_chain hchain hhandlers ?_ ?_
      · simpa [Controller.step, completeDeferred, Step.registrations] using h.registrations_eq
      · simp [Controller.step, builds_completeDeferred, h.builds_eq]

theorem Built.run (h : c.Built early late seen) (steps : List Step) :
    (c.run steps).1.Built early (late ++ steps.flatMap (·.registrations))
      (seen ++ (c.run steps).2) := by
  induction steps generalizing c late seen with
  | nil => simpa [Controller.run] using h
  | cons s rest ih => simpa [Controller.run] using ih (h.step s)

theorem Unbuilt.run (h : c.Unbuilt made seen) (steps : List Step) :
    let now := (c.run steps).1
    let early := made ++ (steps.takeWhile (!·.builds)).flatMap (·.registrations)
    let late := (steps.dropWhile (!·.builds)).flatMap (·.registrations)
    if steps.any (·.builds) then now.Built early late (seen ++ (c.run steps).2)
    else now.Unbuilt early (seen ++ (c.run steps).2) := by
  induction steps generalizing c made seen with
  | nil => simpa [Controller.run] using h
  | cons s rest ih =>
      cases hbuilds : s.builds with
      | false => simpa [Controller.run, hbuilds] using ih (h.step hbuilds)
      | true =>
          -- here the early registrations end: this call builds the chain, whichever call it is
          have hnext : (c.step s).1.Built made [] (seen ++ (c.step s).2.2) := by
            cases s with
            | build hardware => exact h.setUp hardware
            | dispatch hardware command => exact dispatch_built hardware command (h.setUp hardware)
            | register | subscribe | completeDeferred => contradiction
          simpa [Controller.run, hbuilds, Step.registrations_of_builds hbuilds] using hnext.run rest

end Controller

/-- Whatever the calls are, the chain is built by the first that asks for it, of what had been
registered until then, and stays as it was built. -/
theorem chain_is_built_once (steps : List Controller.Step) :
    let now := (({} : Controller).run steps).1
    let seen := (({} : Controller).run steps).2
    let early := (steps.takeWhile (!·.builds)).flatMap (·.registrations)
    let late := (steps.dropWhile (!·.builds)).flatMap (·.registrations)
    (if steps.any (·.builds) then now.Built early late seen else now.Unbuilt early seen) ∧
      ∀ r, (now.step (.register r)).2.1 = some true := by
  have hstart : ({} : Controller).Unbuilt [] [] :=
    Controller.unbuilt_of_sorted rfl (by simp [Registration.sorted]) rfl
  exact ⟨by simpa using hstart.run steps, fun _ => rfl⟩

/-- A factory that fails is run once like the others; one that is registered late never is. -/
example :
    let hardware := Hardware.scripted (.ok ()) fun _ => .ok .notImplemented
    let steps : List Controller.Step :=
      [.register ⟨.generic, fun _ => .error .queueClosed⟩,
        .register ⟨.lgTelevision, fun _ => .ok .lgTelevision⟩, .build hardware,
        .register ⟨.samsung, fun _ => .ok .lgTelevision⟩, .dispatch hardware ⟨0, .listAdapters⟩]
    let run := ({} : Controller).run steps
    run.1.handlerRanks = [.lgTelevision] ∧ run.1.registeredRanks = [.samsung] ∧
      Event.builds run.2 = [0, 1] := by
  decide

end CecGateway
