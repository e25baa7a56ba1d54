import CecGateway.Proofs.Reply.Records
import CecGateway.Proofs.Text.Decimal

/-!
# Logical addresses

A device has the address that the first line of its record gives, and this counts as a logical one
exactly if it is a numeral (`logical_addresses_are_numerals`). A record may have no line that gives
an address; the empty text that stands in its place has no character that is not a digit, and so
counts as a logical address too (`missing_address_passes_for_logical`).
-/

namespace CecGateway

theorem Device.hasLogicalAddress_iff (d : Device) :
    d.hasLogicalAddress = true ↔ ∀ c ∈ d.address.toList, c.isDigit = true := by
  simp only [hasLogicalAddress, List.all_eq_true, Decimal.isDigit_eq]

theorem Device.hasLogicalAddress_iff_isNumeral {d : Device} (hne : d.address ≠ "") :
    d.hasLogicalAddress = true ↔ Decimal.IsNumeral d.address := by
  rw [d.hasLogicalAddress_iff]
  exact (and_iff_right hne).symm

theorem Device.hasLogicalAddress_of_empty {d : Device} (hempty : d.address = "") :
    d.hasLogicalAddress = true := by
  rw [d.hasLogicalAddress_iff, hempty]
  intro c hc
  exact absurd hc List.not_mem_nil

namespace Reply

/-- A line with the marker of the address, and with a value. -/
def givesAddress (line : String) : Bool := Line.contains "address" line && Line.value line ≠ ""

theorem addressIn_eq (lines : List String) :
    addressIn lines = ((lines.find? givesAddress).map Line.value).getD "" := by
  have htest : (fun line => decide (Line.contains "address" line = true ∧
      decide (Line.value line ≠ "") = true)) = givesAddress := by
    funext line
    rw [givesAddress, Bool.decide_and, Bool.decide_coe, Bool.decide_coe]
  rw [addressIn, List.find?_map, List.find?_filter, ← htest]
  rfl

theorem value_ne_of_givesAddress {line : String} (h : givesAddress line = true) :
    Line.value line ≠ "" := by
  rw [givesAddress, Bool.and_eq_true] at h
  exact of_decide_eq_true h.2

variable {s : Section} {line : String}

theorem Section.address_of_find? (h : s.body.find? givesAddress = some line) :
    s.device.address = Line.value line := by
  rw [s.address_device, addressIn_eq, h]
  rfl

theorem Section.address_of_forall (h : ∀ line ∈ s.body, givesAddress line = false) :
    s.device.address = "" := by
  have hnone : s.body.find? givesAddress = none := by
    rw [List.find?_eq_none]
    intro line hline
    exact Bool.eq_false_iff.mp (h line hline)
  rw [s.address_device, addressIn_eq, hnone]
  rfl

/-- The address of a device is what the first line of its record that gives one says, and it is a
logical one exactly if it consists of digits and has at least one. Where no line of the record gives
an address, the device has the empty one, and that counts as logical. -/
theorem logical_addresses_are_numerals (lines : List String) (i : Nat) (d : Device)
    (hd : (devices lines)[i]? = some d) :
    ∃ header body, RecordAt lines i header body ∧
      (∀ line, body.find? givesAddress = some line → d.address = Line.value line ∧
        (d.hasLogicalAddress = true ↔ Decimal.IsNumeral d.address)) ∧
      ((∀ line ∈ body, givesAddress line = false) →
        d.address = "" ∧ d.hasLogicalAddress = true) := by
  rw [devices_eq, List.getElem?_map, Option.map_eq_some_iff] at hd
  obtain ⟨s, hs, rfl⟩ := hd
  refine ⟨s.header, s.body, recordAt_of_sections hs, ?_, ?_⟩
  · intro line hline
    have haddress := s.address_of_find? hline
    refine ⟨haddress, Device.hasLogicalAddress_iff_isNumeral ?_⟩
    rw [haddress]
    exact value_ne_of_givesAddress (List.find?_some hline)
  · intro hsilent
    have haddress := s.address_of_forall hsilent
    exact ⟨haddress, Device.hasLogicalAddress_of_empty haddress⟩

/-- The second of two devices has an address that is no numeral, given by the second of its lines
with the marker. -/
theorem dotted_address_is_not_logical :
    let lines := ["device: TV", "address: 0", "device: Player", "address:", "address: 1.0.0.0"]
    let player : Device := { name := "Player", address := "1.0.0.0" }
    (devices lines)[1]? = some player ∧ ∃ header body, RecordAt lines 1 header body ∧
      ∀ line, body.find? givesAddress = some line → player.address = Line.value line ∧
        (player.hasLogicalAddress = true ↔ Decimal.IsNumeral player.address) := by
  intro lines player
  have hplayer : (devices lines)[1]? = some player := by decide
  obtain ⟨header, body, hrecord, hgiven, -⟩ := logical_addresses_are_numerals lines 1 player hplayer
  exact ⟨hplayer, header, body, hrecord, hgiven⟩

/-- Neither record of the dump has a line that gives an address, although one has the marker. -/
theorem missing_address_passes_for_logical :
    (¬∀ lines, ∀ d ∈ devices lines,
      d.hasLogicalAddress = true ↔ Decimal.IsNumeral d.address) ∧
    ¬∀ lines, (∀ line ∈ lines, givesAddress line = false) →
      ∀ d ∈ devices lines, d.hasLogicalAddress = false := by
  let lines := ["device: TV", "vendor: LG", "device: Player", "address:"]
  let player : Device := { name := "Player" }
  have hplayer : player ∈ devices lines := by decide
  have hlogical : player.hasLogicalAddress = true := by decide
  constructor
  · intro hnumerals
    have hnumeral := (hnumerals lines player hplayer).mp hlogical
    exact hnumeral.1 rfl
  · intro hnever
    have hsilent : ∀ line ∈ lines, givesAddress line = false := by decide
    have hnot := hnever lines hsilent player hplayer
    exact Bool.false_ne_true (hnot.symm.trans hlogical)

end Reply

end CecGateway
