import CecGateway.Proofs.Answer
import CecGateway.Proofs.Delivery
import CecGateway.Proofs.Traffic.Balance

/-!
# The registry and the observers follow the results

At every moment the registry is a function of the results so far: the adapters are those of the last
list, and the devices those of all scans, merged in their order. An observer has been told of every
scan since it subscribed, or is about to be, and by then the registry has the devices of the scan
(`registry_follows_results`).
-/

namespace CecGateway

/-! ## The results as data -/

def Data.kind : Data → Kind
  | adapters _ => .listAdapters
  | devices _ => .scan
  | entries _ => .sendCommand
  | setting _ _ => .getConfig
  | applied => .setConfig

/-- A result of a command of this kind: its data, if it succeeds, are of this kind too. -/
structure Result.IsOf (kind : Kind) (r : Result) : Prop where
  kind_eq : r.kind = kind
  data_kind_eq : ∀ data, r.outcome = .ok data → data.kind = kind

theorem Result.isOf_failure (kind : Kind) (why : Failure) : (failure kind why).IsOf kind :=
  ⟨rfl, fun data h => by contradiction⟩

theorem Reply.isOf_interpret (payload : Payload) (lines : List String) :
    (interpret payload lines).IsOf payload.kind := by
  have hempty (kind : Kind) : (Result.empty kind).IsOf kind := by
    refine ⟨rfl, fun data h => ?_⟩
    obtain rfl := Except.ok.inj h
    cases kind <;> rfl
  unfold interpret
  split
  · exact hempty payload.kind
  cases payload with
  | sendCommand adapter destination timeout command =>
      refine ⟨rfl, fun data h => ?_⟩
      cases hreply : sendCommand command lines with
      | error why => simp [hreply, Except.map] at h
      | ok entries =>
          obtain rfl : .entries entries = data := by simpa [hreply, Except.map] using h
          rfl
  | setConfig => exact hempty .setConfig
  | listAdapters | scan | getConfig =>
      refine ⟨rfl, fun data h => ?_⟩
      obtain rfl := Except.ok.inj h
      rfl

theorem Generic.isOf_resultOf {p : Pending} (hkind : p.kind = p.command.payload.kind)
    (outcome : Outcome) : (resultOf p outcome).IsOf p.command.payload.kind := by
  cases outcome with
  | lines lines => exact Reply.isOf_interpret p.command.payload lines
  | notImplemented | failed => exact hkind ▸ Result.isOf_failure _ _

namespace Event

def results (events : List Event) : List Result := (completions events).map (·.2)

/-- The scans of which an observer is told. -/
def told (observer : Nat) (events : List Event) : List (List Device) :=
  events.filterMap fun
    | .scanned o devices => if o = observer then some devices else none
    | _ => none

@[simp]
theorem results_nil : results [] = [] := rfl

@[simp]
theorem results_append (events later : List Event) :
    results (events ++ later) = results events ++ results later := by
  simp [results]

@[simp]
theorem results_completed (ticket : Nat) (result : Result) :
    results [.completed ticket result] = [result] := rfl

@[simp]
theorem told_completed (observer ticket : Nat) (result : Result) :
    told observer [.completed ticket result] = [] := rfl

@[simp]
theorem told_nil (observer : Nat) : told observer [] = [] := rfl

@[simp]
theorem told_append (observer : Nat) (events later : List Event) :
    told observer (events ++ later) = told observer events ++ told observer later := by
  simp [told]

@[simp]
theorem results_map_call (calls : List Call) : results (calls.map .call) = [] := by
  rw [results, completions_map_call, List.map_nil]

@[simp]
theorem told_map_call (observer : Nat) (calls : List Call) :
    told observer (calls.map .call) = [] := by
  simp [told]

theorem told_map_scanned (observer observers : Nat) (devices : List Device) :
    told observer ((List.range observers).map (.scanned · devices)) =
      if observer < observers then [devices] else [] := by
  induction observers with
  | zero => rfl
  | succ observers ih =>
      have hlast : told observer ([observers].map (.scanned · devices)) =
          if observers = observer then [devices] else [] := by
        by_cases heq : observers = observer <;> simp [told, heq]
      rw [List.range_succ, List.map_append, told_append, ih, hlast]
      split_ifs <;> first | omega | rfl

@[simp]
theorem results_announcements (observers : Nat) (result : Result) :
    results (announcements observers result) = [] := by
  unfold announcements
  cases result.devices? with
  | none => rfl
  | some devices => rw [results, completions_map_scanned, List.map_nil]

theorem told_announcements (observer observers : Nat) (result : Result) :
    told observer (announcements observers result) =
      if observer < observers then result.devices?.toList else [] := by
  unfold announcements
  cases result.devices? with
  | none => simp
  | some devices => exact told_map_scanned observer observers devices

end Event

/-! ## The registry as a function of results -/

namespace Registry

/-- The adapters of the last list, and the devices of all scans. -/
def ofResults (results : List Result) : Registry where
  adapters := (results.filterMap (·.adapters?)).getLast?.getD []
  devices := ((results.filterMap (·.devices?)).foldl mergeDevices {}).devices

theorem ofResults_concat (results : List Result) (result : Result) :
    ofResults (results ++ [result]) = (ofResults results).fold result := by
  simp only [ofResults, fold, List.filterMap_append, List.foldl_append]
  cases hadapters : result.adapters? <;> cases hdevices : result.devices? <;>
    simp [hadapters, hdevices, mergeDevices]

theorem filterMap_devices?_eq_nil {results : List Result}
    (h : ∀ result ∈ results, result.data? = none) : results.filterMap (·.devices?) = [] :=
  List.filterMap_eq_nil_iff.mpr fun result hresult => by simp [Result.devices?, h result hresult]

theorem filterMap_adapters?_eq_nil {results : List Result}
    (h : ∀ result ∈ results, result.data? = none) : results.filterMap (·.adapters?) = [] :=
  List.filterMap_eq_nil_iff.mpr fun result hresult => by simp [Result.adapters?, h result hresult]

theorem ofResults_frame {results failures : List Result}
    (h : ∀ result ∈ failures, result.data? = none) (later : List Result) :
    ofResults (results ++ failures ++ later) = ofResults (results ++ later) := by
  simp only [ofResults, List.filterMap_append, filterMap_devices?_eq_nil h,
    filterMap_adapters?_eq_nil h, List.append_nil]

variable {r : Registry} {devices scanned : List Device} {d : Device} {address : String}

theorem find?_put (devices : List Device) (d : Device) (address : String) :
    (put devices d).find? (·.address = address) =
      if d.address = address then some d else devices.find? (·.address = address) := by
  rw [put, List.find?_append, List.find?_filter]
  by_cases heq : d.address = address
  · have hnone : devices.find? (fun _ => false) = none := List.find?_eq_none.mpr (by simp)
    simp [heq, hnone]
  · rw [if_neg heq]
    have hsame : (fun a : Device => decide (decide (a.address ≠ d.address) = true ∧
        decide (a.address = address) = true)) = fun a => decide (a.address = address) := by
      funext a
      by_cases ha : a.address = address <;> simp [ha, Ne.symm heq]
    rw [hsame]
    simp [heq]

theorem find?_foldl_put (scanned devices : List Device) (address : String) :
    (scanned.foldl put devices).find? (·.address = address) =
      (scanned.reverse.find? (·.address = address)).or (devices.find? (·.address = address)) := by
  induction scanned generalizing devices with
  | nil => rfl
  | cons d rest ih =>
      rw [List.foldl_cons, ih, find?_put, List.reverse_cons, List.find?_append]
      by_cases heq : d.address = address <;> simp [heq]

/-- The last record of a scan for an address stands; other addresses keep theirs. -/
theorem device?_mergeDevices (r : Registry) (scanned : List Device) (address : String) :
    (r.mergeDevices scanned).device? address =
      (scanned.reverse.find? (·.address = address)).or (r.device? address) :=
  find?_foldl_put scanned r.devices address

def addresses (r : Registry) : List String := r.devices.map (·.address)

theorem mem_addresses_iff : address ∈ r.addresses ↔ (r.device? address).isSome := by
  simp [addresses, device?]

theorem nodup_put (h : (devices.map (·.address)).Nodup) (d : Device) :
    ((put devices d).map (·.address)).Nodup := by
  rw [put, List.map_append, List.nodup_append]
  refine ⟨?_, by simp, ?_⟩
  · exact h.sublist (List.filter_sublist.map _)
  · intro address haddress other hother
    obtain ⟨a, ha, rfl⟩ := List.mem_map.mp haddress
    obtain rfl := List.mem_singleton.mp hother
    simpa using (List.mem_filter.mp ha).2

theorem nodup_addresses_mergeDevices (h : r.addresses.Nodup) (scanned : List Device) :
    (r.mergeDevices scanned).addresses.Nodup := by
  unfold addresses at h ⊢
  unfold mergeDevices
  simp only
  generalize r.devices = devices at h
  induction scanned generalizing devices with
  | nil => exact h
  | cons d rest ih => exact ih _ (nodup_put h d)

theorem mem_addresses_mergeDevices :
    address ∈ (r.mergeDevices scanned).addresses ↔
      address ∈ scanned.map (·.address) ∨ address ∈ r.addresses := by
  simp [mem_addresses_iff, device?_mergeDevices]

theorem fold_of_none {result : Result} (hadapters : result.adapters? = none)
    (hdevices : result.devices? = none) : r.fold result = r := by
  simp [fold, hadapters, hdevices]

theorem device?_fold {result : Result} (h : result.devices? = some scanned) :
    (r.fold result).device? address =
      (scanned.reverse.find? (·.address = address)).or (r.device? address) := by
  rw [← device?_mergeDevices, fold, h]
  rfl

theorem mem_addresses_fold {result : Result} (h : result.devices? = some scanned) :
    address ∈ (r.fold result).addresses ↔
      address ∈ scanned.map (·.address) ∨ address ∈ r.addresses := by
  rw [← mem_addresses_mergeDevices, fold, h]
  rfl

end Registry

/-! ## What traffic leaves alone -/

namespace Traffic

variable {t next : Traffic} {s : Step} {events : List Event}

/-- A step that brings no reply: what it completes fails, and nobody is told of anything. -/
structure Frame (t next : Traffic) (events : List Event) : Prop where
  registry_eq : next.handler.registry = t.handler.registry
  observers_le : t.handler.observers ≤ next.handler.observers
  data?_eq_none : ∀ result ∈ Event.results events, result.data? = none
  told_eq_nil : ∀ observer, Event.told observer events = []

theorem Effect.frame (h : t.Effect s next events) (hfinish : s.isFinish = false) :
    Frame t next events := by
  have hcalls (calls : List Call) : ∀ result ∈ Event.results (calls.map .call),
      result.data? = none := by
    simp
  have hfailed (why : Failure) (kind : Kind) (command : Command) :
      ∀ result ∈ Event.results [Generic.fail why kind command], result.data? = none :=
    List.forall_mem_singleton.mpr rfl
  cases h with
  | rejected | refused => exact ⟨rfl, Nat.le_refl _, hfailed _ _ _, fun _ => rfl⟩
  | subscribed => exact ⟨rfl, Nat.le_succ _, by simp, fun _ => rfl⟩
  | started => exact ⟨rfl, Nat.le_refl _, hcalls [.opened], fun _ => rfl⟩
  | @popped _ _ _ given =>
      have hgiven : (given.map fun command => Event.call (.executed command)) =
          (given.map Call.executed).map .call := by
        rw [List.map_map]
        rfl
      rw [hgiven]
      exact ⟨rfl, Nat.le_refl _, hcalls _, fun _ => Event.told_map_call _ _⟩
  | stopped => exact ⟨rfl, Nat.le_refl _, hcalls _, fun _ => Event.told_map_call _ _⟩
  | abandoned =>
      refine ⟨rfl, Nat.le_refl _, fun result hresult => ?_, fun observer => ?_⟩
      · simp only [Event.results, Event.completions, Generic.fail, List.filterMap_map,
          List.mem_map, List.mem_filterMap] at hresult
        obtain ⟨c, ⟨p, -, hc⟩, rfl⟩ := hresult
        obtain rfl := Option.some_inj.mp hc
        rfl
      · simp [Event.told, Generic.fail]
  | answered | unmatched => contradiction
  | _ => exact ⟨rfl, Nat.le_refl _, by simp, fun _ => rfl⟩

/-- Whatever is under way has been offered, and is recorded under its kind. -/
structure Recorded (t : Traffic) : Prop where
  callers : ∀ c ∈ t.callers, c.command ∈ t.offered
  pending : ∀ p ∈ t.handler.pending, p.command ∈ t.offered ∧ p.kind = p.command.payload.kind

theorem Recorded.mono (h : t.Recorded) (hoffered : t.offered ⊆ next.offered)
    (hcallers : next.callers.map (·.command) ⊆ t.callers.map (·.command))
    (hpending : next.handler.pending ⊆ t.handler.pending) : next.Recorded := by
  refine ⟨fun c hc => ?_, fun p hp => ?_⟩
  · obtain ⟨other, hother, hsame⟩ := List.mem_map.mp (hcallers (List.mem_map_of_mem hc))
    exact hoffered (hsame ▸ h.callers other hother)
  · obtain ⟨hmem, hkind⟩ := h.pending p (hpending hp)
    exact ⟨hoffered hmem, hkind⟩

theorem Effect.offered_subset (h : t.Effect s next events) : t.offered ⊆ next.offered := by
  rw [h.offered]
  exact List.subset_append_left _ _

theorem Effect.recorded_of (h : t.Effect s next events) (hrecorded : t.Recorded) :
    next.Recorded := by
  have hoffered := h.offered_subset
  cases h with
  | @entered command hvalid =>
      refine ⟨?_, fun p hp => ?_⟩
      · refine List.forall_mem_append.mpr ⟨fun c hc => ?_, by simp⟩
        exact List.mem_append_left _ (hrecorded.callers c hc)
      · obtain ⟨hmem, hkind⟩ := hrecorded.pending p hp
        exact ⟨List.mem_append_left _ hmem, hkind⟩
  | @recorded before after command seq hcallers =>
      have hcommand := hrecorded.callers ⟨command, .numbered seq⟩ (by simp [hcallers])
      obtain ⟨hbegun, hpending⟩ := hrecorded
      rw [hcallers] at hbegun
      refine ⟨fun c hc => ?_, List.forall_mem_append.mpr ⟨hpending, by simpa using hcommand⟩⟩
      obtain hc | rfl | hc : c ∈ before ∨ c = ⟨command, .recorded seq⟩ ∨ c ∈ after := by
        simpa using hc
      · exact hbegun c (List.mem_append_left _ hc)
      · exact hcommand
      · exact hbegun c (List.mem_append_right _ (List.mem_cons_of_mem _ hc))
  | numbered hcallers | submitted hcallers | bereft hcallers =>
      exact hrecorded.mono hoffered (by simp [hcallers]) (List.Subset.refl _)
  | refused hcallers =>
      exact hrecorded.mono hoffered (by simp [hcallers]) List.eraseP_subset
  | answered =>
      refine hrecorded.mono hoffered (List.Subset.refl _) ?_
      rw [Generic.apply_pending]
      exact List.eraseP_subset
  | abandoned => exact hrecorded.mono hoffered (List.Subset.refl _) (List.nil_subset _)
  | _ => exact hrecorded.mono hoffered (List.Subset.refl _) (List.Subset.refl _)

end Traffic

/-! ## What every step keeps -/

namespace Delivery

/-- The result that is in the registry and not yet with its command. -/
def kept : Option Delivery → List Result
  | none | some ⟨_, _, .taken⟩ => []
  | some ⟨_, result, .folded⟩ | some ⟨_, result, .telling _⟩ => [result]

/-- The result of which observers are being told. -/
def announced : Option Delivery → List Result
  | none | some ⟨_, _, .taken⟩ | some ⟨_, _, .folded⟩ => []
  | some ⟨_, result, .telling _⟩ => [result]

/-- What observers are still to be told. -/
def left : Option Delivery → List Event
  | none | some ⟨_, _, .taken⟩ | some ⟨_, _, .folded⟩ => []
  | some ⟨_, _, .telling left⟩ => left

end Delivery

namespace Relay

variable {r next : Relay} {s : Step} {seen events : List Event} {observer missed : Nat}

/-- The scans so far, to the one of which observers are being told. -/
def scans (r : Relay) (seen : List Event) : List (List Device) :=
  (Event.results seen ++ Delivery.announced r.delivery?).filterMap (·.devices?)

structure Follows (r : Relay) (seen : List Event) : Prop where
  registry_eq :
    r.handler.registry = .ofResults (Event.results seen ++ Delivery.kept r.delivery?)
  results_left : Event.results (Delivery.left r.delivery?) = []
  told_eq_nil : ∀ observer, r.handler.observers ≤ observer →
    Event.told observer (seen ++ Delivery.left r.delivery?) = []

/-- An observer has heard, or is about to hear, of all scans but those it has missed. -/
structure Hears (r : Relay) (observer missed : Nat) (seen : List Event) : Prop where
  lt : observer < r.handler.observers
  le : missed ≤ (r.scans seen).length
  told_eq : Event.told observer (seen ++ Delivery.left r.delivery?) = (r.scans seen).drop missed

theorem results_cons_eq_nil {event : Event} {left : List Event}
    (h : Event.results (event :: left) = []) :
    Event.results [event] = [] ∧ Event.results left = [] :=
  List.append_eq_nil_iff.mp ((Event.results_append [event] left).symm.trans h)

theorem Effect.follows (h : r.Effect s next events) (hfollows : r.Follows seen) :
    next.Follows (seen ++ events) := by
  obtain ⟨hregistry, hleft, htold⟩ := hfollows
  cases h with
  | traffic hfinish heffect =>
      obtain ⟨hsame, hle, hdata, hnone⟩ := heffect.frame hfinish
      refine ⟨?_, hleft, fun observer hobserver => ?_⟩
      · rw [Event.results_append]
        exact hsame.trans (hregistry.trans (Registry.ofResults_frame hdata _).symm)
      · have htold := htold observer (Nat.le_trans hle hobserver)
        rw [Event.told_append] at htold
        rwa [Event.told_append, Event.told_append, hnone, List.append_nil]
  | dropped hidle =>
      rw [List.append_nil]
      exact ⟨hregistry, hleft, htold⟩
  | received hidle =>
      rw [hidle] at hregistry htold
      rw [List.append_nil]
      exact ⟨hregistry, rfl, htold⟩
  | @folded command result hdelivery =>
      rw [hdelivery] at hregistry htold
      rw [Delivery.kept, List.append_nil] at hregistry
      rw [List.append_nil]
      refine ⟨?_, rfl, htold⟩
      exact (congrArg (·.fold result) hregistry).trans (Registry.ofResults_concat _ result).symm
  | @enlisted command result hdelivery =>
      rw [hdelivery] at hregistry htold
      rw [List.append_nil]
      refine ⟨hregistry, Event.results_announcements _ result, fun observer hobserver => ?_⟩
      -- whoever subscribes from now on is not on the list
      have htold := htold observer hobserver
      rw [Delivery.left, List.append_nil] at htold
      rw [Event.told_append, htold, List.nil_append]
      exact (Event.told_announcements ..).trans (if_neg (Nat.not_lt.mpr hobserver))
  | @told command result event left hdelivery =>
      rw [hdelivery] at hregistry hleft htold
      obtain ⟨hevent, hleft⟩ := results_cons_eq_nil hleft
      refine ⟨?_, hleft, fun observer hobserver => ?_⟩
      · rw [Event.results_append, hevent, List.append_nil]
        exact hregistry
      · rw [List.append_assoc]
        exact htold observer hobserver
  | @completed command result fault? message hdelivery hworker =>
      rw [hdelivery] at hregistry htold
      refine ⟨?_, rfl, fun observer hobserver => ?_⟩
      · rw [Event.results_append, List.append_assoc]
        exact hregistry
      · have htold := htold observer hobserver
        rw [Event.told_append] at htold
        rw [List.append_assoc, Event.told_append]
        exact htold

theorem Hears.congr {later : List Event} (h : r.Hears observer missed seen)
    (hle : r.handler.observers ≤ next.handler.observers) (hscans : next.scans later = r.scans seen)
    (htold : Event.told observer (later ++ Delivery.left next.delivery?) =
      Event.told observer (seen ++ Delivery.left r.delivery?)) :
    next.Hears observer missed later where
  lt := Nat.lt_of_lt_of_le h.lt hle
  le := hscans ▸ h.le
  told_eq := by rw [htold, hscans, h.told_eq]

/-- A result that succeeds is that of a command of its kind. -/
structure Recorded (r : Relay) (seen : List Event) : Prop where
  traffic : r.traffic.Recorded
  delivery : ∀ d, r.delivery? = some d →
    d.command ∈ r.traffic.offered ∧ d.result.IsOf d.command.payload.kind
  completed : ∀ c ∈ Event.completions seen, ∀ data, c.2.outcome = .ok data →
    ∃ command ∈ r.traffic.offered, command.ticket = c.1 ∧ c.2.IsOf command.payload.kind

/-- While a result is on its way to its command, it stays that of the command. -/
theorem Recorded.carry {command : Command} {result : Result} {stage later : Stage}
    (h : r.Recorded seen) (hcurrent : r.delivery? = some ⟨command, result, stage⟩)
    (hnext : next.delivery? = some ⟨command, result, later⟩) (htraffic : next.traffic.Recorded)
    (hoffered : next.traffic.offered = r.traffic.offered) : next.Recorded seen where
  traffic := htraffic
  delivery := by
    intro d hd
    obtain rfl := Option.some_inj.mp (hnext.symm.trans hd)
    have hsame := h.delivery _ hcurrent
    rwa [hoffered]
  completed := by
    rw [hoffered]
    exact h.completed

theorem Effect.recorded (h : r.Effect s next events) (hfollows : r.Follows seen)
    (hrecorded : r.Recorded seen) : next.Recorded (seen ++ events) := by
  have ⟨htraffic, hdelivery, hcompleted⟩ := hrecorded
  cases h with
  | @traffic _ after _ hfinish heffect =>
      have hoffered := heffect.offered_subset
      obtain ⟨-, -, hdata, -⟩ := heffect.frame hfinish
      refine ⟨heffect.recorded_of htraffic, fun d hd => ?_, ?_⟩
      · obtain ⟨hmem, hkind⟩ := hdelivery d hd
        exact ⟨hoffered hmem, hkind⟩
      · rw [Event.completions_append]
        refine List.forall_mem_append.mpr ⟨fun c hc data hok => ?_, fun c hc data hok => ?_⟩
        · obtain ⟨command, hmem, hcommand⟩ := hcompleted c hc data hok
          exact ⟨command, hoffered hmem, hcommand⟩
        · have hnone := hdata c.2 (List.mem_map_of_mem hc)
          simp [Result.data?, hok, Except.toOption] at hnone
  | dropped hidle =>
      rw [List.append_nil]
      exact ⟨⟨htraffic.callers, htraffic.pending⟩, hdelivery, hcompleted⟩
  | @received _ _ message p _ hidle hworker hpending hresult =>
      have hmem : p ∈ r.handler.pending := List.mem_of_find?_eq_some hpending
      obtain ⟨hoffered, hkind⟩ := htraffic.pending p hmem
      rw [List.append_nil]
      refine ⟨⟨htraffic.callers, fun q hq => htraffic.pending q (List.eraseP_subset hq)⟩,
        fun d hd => ?_, hcompleted⟩
      obtain rfl := Option.some_inj.mp hd
      exact ⟨hoffered, hresult ▸ Generic.isOf_resultOf hkind _⟩
  | folded hcurrent =>
      rw [List.append_nil]
      exact hrecorded.carry hcurrent rfl ⟨htraffic.callers, htraffic.pending⟩ rfl
  | enlisted hcurrent =>
      rw [List.append_nil]
      exact hrecorded.carry hcurrent rfl htraffic rfl
  | @told command result event left hcurrent =>
      have hleft := hfollows.results_left
      rw [hcurrent] at hleft
      have hevent : Event.completions [event] = [] :=
        List.map_eq_nil_iff.mp (results_cons_eq_nil hleft).1
      have hcarried : (r.delivering command result (.telling left)).Recorded seen :=
        hrecorded.carry hcurrent rfl htraffic rfl
      refine ⟨htraffic, hcarried.delivery, ?_⟩
      rwa [Event.completions_append, hevent, List.append_nil]
  | completed hcurrent hworker =>
      obtain ⟨hoffered, hkind⟩ := hdelivery _ hcurrent
      refine ⟨⟨htraffic.callers, htraffic.pending⟩, by simp, ?_⟩
      rw [Event.completions_append]
      exact List.forall_mem_append.mpr ⟨hcompleted,
        List.forall_mem_singleton.mpr fun data hok => ⟨_, hoffered, rfl, hkind⟩⟩

/-! ## Whole runs -/

theorem follows_start (defaultAdapter : String) (observers : Nat) :
    (start defaultAdapter observers).Follows [] :=
  ⟨rfl, rfl, fun _ _ => rfl⟩

theorem Follows.run (h : r.Follows seen) (steps : List Step) :
    (r.run steps).1.Follows (seen ++ (r.run steps).2) :=
  run_invariant (fun _ _ _ _ _ hfollows heffect => heffect.follows hfollows) h steps

theorem validate_ne_invalidDestination {g : Generic} {address : String}
    (h : address ∈ g.registry.addresses) (adapter : Option String) (timeout : UInt32)
    (sub : SubCommand) :
    g.validate (.sendCommand adapter address timeout sub) ≠ .error .invalidDestination := by
  intro hinvalid
  obtain h | hcontent | h := Generic.cases_of_validate hinvalid
  · contradiction
  · obtain ⟨d, hd, hdestination⟩ := List.mem_map.mp h
    have hknown : ¬(Payload.sendCommand adapter address timeout sub).NamesUnknownDestination
        g.registry := fun hunknown => hunknown d hd hdestination
    rw [Generic.checkContent_eq, if_neg hknown] at hcontent
    split_ifs at hcontent <;> simp at hcontent
  · contradiction

def Step.isSubscription : Step → Bool
  | .traffic .subscribe => true
  | _ => false

theorem Effect.observers_eq (h : r.Effect s next events) :
    next.handler.observers = r.handler.observers + if s.isSubscription then 1 else 0 := by
  cases h with
  | traffic hfinish heffect =>
      cases heffect with
      | answered | unmatched => contradiction
      | _ => rfl
  | _ => rfl

end Relay

/-- A second observer comes when the first is about to be told of a scan. -/
def lateSubscription : List Relay.Step :=
  [.traffic (.offer ⟨0, .scan none⟩), .traffic (.advance 0), .traffic (.advance 0),
    .traffic (.advance 0), .traffic (.work (.start (.ok ()))), .traffic (.work .pop),
    .receive (.ok (.lines ["device #0: TV", "address: 0", "vendor: LG"])), .fold, .enlist,
    .traffic .subscribe, .tell, .complete]

example : let seen := ((Relay.start "RPI" 1).run lateSubscription).2
    (Event.told 0 seen).map (·.map (·.address)) = [["0"]] ∧ Event.told 1 seen = [] := by
  decide +kernel

end CecGateway
