import CecGateway.Proofs.Delivery.Registry

/-!
# Merging in closed form

Devices are merged one at a time, each in place of the record with its address, so that the list is
reordered on the way. What a whole scan makes of it can still be said at once: the records that the
scan does not name stay in their order, and behind them come those of the scan that no later one
replaces (`merge_is_closed_form`).
-/

namespace CecGateway

namespace Registry

/-- The records of a scan that are the last with their address. -/
def latest : List Device → List Device
  | [] => []
  | d :: later => if d.address ∈ later.map (·.address) then latest later else d :: latest later

/-- The records whose address a scan does not name. -/
def unnamed (scanned devices : List Device) : List Device :=
  devices.filter (·.address ∉ scanned.map (·.address))

variable {r : Registry} {scanned other : List Device}

theorem latest_sublist (scanned : List Device) : (latest scanned).Sublist scanned := by
  induction scanned with
  | nil => exact .slnil
  | cons d later ih =>
      rw [latest]
      split
      · exact ih.cons d
      · exact ih.cons_cons d

theorem unnamed_append (scanned devices further : List Device) :
    unnamed scanned (devices ++ further) = unnamed scanned devices ++ unnamed scanned further :=
  List.filter_append _ _

theorem unnamed_unnamed (scanned devices : List Device) :
    unnamed scanned (unnamed scanned devices) = unnamed scanned devices := by
  simp [unnamed, List.filter_filter]

theorem unnamed_latest (scanned : List Device) : unnamed scanned (latest scanned) = [] := by
  rw [unnamed, List.filter_eq_nil_iff]
  intro d hd
  have hnamed := List.mem_map_of_mem (f := (·.address)) ((latest_sublist scanned).subset hd)
  simpa using hnamed

/-- To put one record and then leave out what the others name is to leave out what all name; the
record itself stays if no other has its address. -/
theorem unnamed_put (d : Device) (later devices : List Device) :
    unnamed later (put devices d) ++ latest later =
      unnamed (d :: later) devices ++ latest (d :: later) := by
  have hrest : unnamed later (devices.filter (·.address ≠ d.address)) =
      unnamed (d :: later) devices := by
    rw [unnamed, unnamed, List.filter_filter]
    refine List.filter_congr fun a _ => ?_
    by_cases ha : a.address = d.address <;> simp [ha]
  rw [put, unnamed_append, hrest, List.append_assoc, latest]
  by_cases hnamed : d.address ∈ later.map (·.address)
  · have hnone : unnamed later [d] = [] := by simpa [unnamed] using hnamed
    rw [if_pos hnamed, hnone, List.nil_append]
  · have hone : unnamed later [d] = [d] := by simpa [unnamed] using hnamed
    rw [if_neg hnamed, hone, List.singleton_append]

theorem foldl_put (scanned devices : List Device) :
    scanned.foldl put devices = unnamed scanned devices ++ latest scanned := by
  induction scanned generalizing devices with
  | nil => simp [unnamed, latest]
  | cons d later ih => rw [List.foldl_cons, ih, unnamed_put]

theorem mergeDevices_eq (r : Registry) (scanned : List Device) :
    r.mergeDevices scanned =
      { r with devices := unnamed scanned r.devices ++ latest scanned } := by
  rw [mergeDevices, foldl_put]

theorem mergeDevices_mergeDevices (r : Registry) (scanned : List Device) :
    (r.mergeDevices scanned).mergeDevices scanned = r.mergeDevices scanned := by
  rw [mergeDevices_eq, mergeDevices_eq, unnamed_append, unnamed_unnamed, unnamed_latest,
    List.append_nil]

theorem find?_eq_none_of_disjoint
    (hdisjoint : (scanned.map (·.address)).Disjoint (other.map (·.address))) (address : String) :
    scanned.reverse.find? (·.address = address) = none ∨
      other.reverse.find? (·.address = address) = none := by
  by_contra hboth
  obtain ⟨hscanned, hother⟩ := not_or.mp hboth
  simp only [List.find?_eq_none, List.mem_reverse, not_forall, decide_eq_true_eq, not_not] at *
  obtain ⟨a, ha, haddress⟩ := hscanned
  obtain ⟨b, hb, rfl⟩ := hother
  exact hdisjoint (haddress ▸ List.mem_map_of_mem ha) (List.mem_map_of_mem hb)

theorem device?_mergeDevices_comm
    (hdisjoint : (scanned.map (·.address)).Disjoint (other.map (·.address))) (address : String) :
    ((r.mergeDevices scanned).mergeDevices other).device? address =
      ((r.mergeDevices other).mergeDevices scanned).device? address := by
  simp only [device?_mergeDevices]
  obtain hnone | hnone := find?_eq_none_of_disjoint hdisjoint address <;>
    simp only [hnone, Option.none_or]

end Registry

/-- Whatever a scan reports, the records that it does not name stay, followed by the last of the
scan for each address; adapters stay as they are. So addresses stay distinct, an address is looked
up in the scan from its end and then among the records before, a second merge changes nothing, and
scans of different addresses may be merged in either order. -/
theorem merge_is_closed_form (r : Registry) (hr : r.addresses.Nodup) (scanned : List Device) :
    r.mergeDevices scanned =
        { r with devices := Registry.unnamed scanned r.devices ++ Registry.latest scanned } ∧
      (r.mergeDevices scanned).addresses.Nodup ∧
      (∀ address, (r.mergeDevices scanned).device? address =
        (scanned.reverse.find? (·.address = address)).or (r.device? address)) ∧
      (r.mergeDevices scanned).mergeDevices scanned = r.mergeDevices scanned ∧
      ∀ other : List Device, (scanned.map (·.address)).Disjoint (other.map (·.address)) →
        ∀ address, ((r.mergeDevices scanned).mergeDevices other).device? address =
          ((r.mergeDevices other).mergeDevices scanned).device? address :=
  ⟨r.mergeDevices_eq scanned, Registry.nodup_addresses_mergeDevices hr scanned,
    r.device?_mergeDevices scanned, r.mergeDevices_mergeDevices scanned,
    fun _ => Registry.device?_mergeDevices_comm⟩

/-- A scan that names a known address, an unknown one twice and the empty one, before another scan
of one more. -/
theorem repeated_addresses_are_merged :
    let r : Registry := ⟨["cec0"], [{ name := "TV", address := "0", vendor := "LG" },
      { name := "Player", address := "4" }, { name := "Deck", address := "1" }]⟩
    let scanned : List Device := [{ name := "Old", address := "5" }, { name := "Silent" },
      { name := "Recorder", address := "4" }, { name := "New", address := "5" }]
    let other : List Device := [{ name := "Tuner", address := "3" }]
    r.addresses.Nodup ∧ (scanned.map (·.address)).Disjoint (other.map (·.address)) ∧
      (r.mergeDevices scanned).devices.map (·.name) =
        ["TV", "Deck", "Silent", "Recorder", "New"] ∧
      ((r.mergeDevices scanned).mergeDevices other).device? "5" =
        ((r.mergeDevices other).mergeDevices scanned).device? "5" := by
  intro r scanned other
  have hr : r.addresses.Nodup := by decide
  have hdisjoint : (scanned.map (·.address)).Disjoint (other.map (·.address)) := by
    simp [scanned, other]
  obtain ⟨hmerged, -, -, -, hcomm⟩ := merge_is_closed_form r hr scanned
  refine ⟨hr, hdisjoint, ?_, hcomm other hdisjoint "5"⟩
  rw [hmerged]
  decide

end CecGateway
