import CecGateway.Contract
import CecGateway.Proofs.Reply.Answers
import CecGateway.Proofs.Reply.Fields
import CecGateway.Proofs.Text.Marker

/-!
# Printed settings and facts about a device

A reply that prints a value for each setting, or the facts about a device that can be asked for,
answers every question with the value that was printed (`values_read_back`). The lines may come in
any order and among others, for no line has a marker that another one is found by.
-/

namespace CecGateway.Reply

/-- A value as it is asked for and as its line is printed. -/
structure Item where
  key : String
  label : String
  quoted : Bool
  deriving DecidableEq

def Item.line (values : String → String) (i : Item) : String :=
  Line.print i.quoted i.label (values i.key)

/-- The settings that are read off the line with their label. -/
def labelledSettings : List Item :=
  [⟨"vendorId", "vendor id", false⟩, ⟨"version", "CEC version", false⟩, ⟨"osd", "OSD name", true⟩,
    ⟨"language", "language", true⟩, ⟨"powerState", "power status", false⟩]

def addressSettings : List Item :=
  [⟨"physicalAddress", "physical address", false⟩, ⟨"logicalAddress", "logical address", false⟩]

def settings : List Item := labelledSettings ++ addressSettings

def settingWords : List String :=
  ["vendor id", "CEC version", "OSD name", "language", "power status", "address"]

/-- The facts about a device that have a value. -/
def facts : List Item :=
  [⟨"vendor-id", "vendor id", false⟩, ⟨"version", "CEC version", false⟩, ⟨"name", "OSD name", true⟩,
    ⟨"language", "language", true⟩]

def factWords : List String := ["vendor id", "CEC version", "OSD name", "language", "active"]

def activityLine (number : Nat) (active : Bool) : String :=
  "device " ++ Decimal.render number ++ if active then " is active" else " is not active"

/-- What a reply says of a fact that it is asked for. -/
def factOf (values : String → String) (active : Bool) (name : String) : String :=
  if name = "is-active" then if active then "true" else "false" else values name

/-- The lines give each setting, among lines of another kind. -/
structure PrintsSettings (values : String → String) (lines : List String) : Prop where
  avoids : ∀ key ∈ readableKeys, Line.Avoids settingWords (values key)
  unpadded : ∀ i ∈ addressSettings, Text.IsUnpadded (values i.key).toList
  perm : ∃ others, (∀ line ∈ others, Line.Avoids settingWords line) ∧
    lines.Perm (settings.map (·.line values) ++ others)

/-- The lines give each fact and say whether the device is active, among lines of another kind. -/
structure PrintsFacts (values : String → String) (number : Nat) (active : Bool)
    (lines : List String) : Prop where
  avoids : ∀ i ∈ facts, Line.Avoids factWords (values i.key)
  perm : ∃ others, (∀ line ∈ others, Line.Avoids factWords line) ∧
    lines.Perm (facts.map (·.line values) ++ activityLine number active :: others)

/-! ## Finding a line -/

/-- Whether a line passes is a matter of the words: one without them does not, and a printed one
passes if its label does. -/
structure LooksFor (words : List String) (p : String → Bool) : Prop where
  printed : ∀ quoted label value, Line.Avoids words value →
    p (Line.print quoted label value) = p label
  other : ∀ line, Line.Avoids words line → p line = false

variable {words : List String} {p q : String → Bool}

theorem looksFor_contains {word : String} (hkeyword : Line.IsKeyword word)
    (hword : ∃ part ∈ words, Line.contains part word = true) :
    LooksFor words (Line.contains word) := by
  obtain ⟨part, hmem, hpart⟩ := hword
  -- A line with the word would also have the listed one that the word holds.
  have hother : ∀ line, Line.Avoids words line → Line.contains word line = false := by
    intro line havoids
    rw [Bool.eq_false_iff]
    intro hline
    have hinfix := (Text.occurs_iff_isInfix _ _).mp hpart |>.trans
      ((Text.occurs_iff_isInfix _ _).mp hline)
    have hcontains : Line.contains part line = true := (Text.occurs_iff_isInfix _ _).mpr hinfix
    rw [havoids part hmem] at hcontains
    contradiction
  refine ⟨?_, hother⟩
  intro quoted label value hvalue
  rw [Line.contains_print hkeyword, hother value hvalue, Bool.or_false]

theorem looksFor_of_mem {word : String} (hkeyword : Line.IsKeyword word) (hword : word ∈ words) :
    LooksFor words (Line.contains word) :=
  looksFor_contains hkeyword ⟨word, hword, Line.contains_self word⟩

theorem LooksFor.and_not (hp : LooksFor words p) (hq : LooksFor words q) :
    LooksFor words fun line => p line && !q line := by
  constructor
  · intro quoted label value hvalue
    rw [hp.printed quoted label value hvalue, hq.printed quoted label value hvalue]
  · intro line hline
    rw [hp.other line hline, Bool.false_and]

variable {values : String → String} {items : List Item} {item : Item} {lines others : List String}

/-- A test that one label passes finds the line with that label. -/
theorem find?_line (hp : LooksFor words p) (hvalues : ∀ i ∈ items, Line.Avoids words (values i.key))
    (hothers : ∀ line ∈ others, p line = false)
    (hperm : lines.Perm (items.map (·.line values) ++ others)) (hitem : item ∈ items)
    (hlabel : p item.label = true) (honly : ∀ i ∈ items, p i.label = true → i = item) :
    lines.find? p = some (item.line values) := by
  apply find?_eq_some_of_unique
  · exact hperm.mem_iff.mpr (List.mem_append_left _ (List.mem_map_of_mem hitem))
  · rw [Item.line, hp.printed _ _ _ (hvalues item hitem), hlabel]
  · intro line hline hpasses
    obtain hmem | hmem := List.mem_append.mp (hperm.mem_iff.mp hline)
    · obtain ⟨i, hi, rfl⟩ := List.mem_map.mp hmem
      rw [Item.line, hp.printed _ _ _ (hvalues i hi)] at hpasses
      rw [honly i hi hpasses]
    · rw [hothers line hmem] at hpasses
      contradiction

theorem reported_of_find? {marker : String} {read : String → String} {line : String}
    (hfind : lines.find? (Line.contains marker) = some line) :
    reported marker read lines = read line := by
  rw [reported, Line.find?, hfind]

theorem reported_item (hkeyword : Line.IsKeyword item.label)
    (hfind : lines.find? (Line.contains item.label) = some (item.line values)) :
    reported item.label (Line.read item.quoted) lines = values item.key := by
  obtain ⟨-, hcolon, hquote⟩ := hkeyword
  rw [reported_of_find? hfind]
  exact Line.read_print hcolon hquote item.quoted (values item.key)

/-! ## Settings -/

theorem valueAfter_print {marker label text : String}
    (hlabel : ∀ rest, Text.after? marker.toList (label.toList ++ rest) = some rest)
    (htext : Text.IsUnpadded text.toList) :
    Line.valueAfter marker (Line.print false label text) = text := by
  rw [Line.valueAfter, Line.toList_print_false, Text.valueAfter_of_after? htext (hlabel _),
    String.ofList_toList]

namespace PrintsSettings

theorem find?_line (h : PrintsSettings values lines) (hp : LooksFor settingWords p)
    (hitem : item ∈ settings) (hlabel : p item.label = true)
    (honly : ∀ i ∈ settings, p i.label = true → i = item) :
    lines.find? p = some (item.line values) := by
  obtain ⟨others, hothers, hperm⟩ := h.perm
  have hkeys : ∀ i ∈ settings, i.key ∈ readableKeys := by decide
  exact Reply.find?_line hp (fun i hi => h.avoids _ (hkeys i hi))
    (fun line hline => hp.other line (hothers line hline)) hperm hitem hlabel honly

theorem setting_labelled (h : PrintsSettings values lines) :
    ∀ item ∈ labelledSettings, setting item.key lines = values item.key := by
  intro item hitem
  have hread : setting item.key lines = reported item.label (Line.read item.quoted) lines := by
    simp only [labelledSettings, List.mem_cons, List.not_mem_nil, or_false] at hitem
    obtain rfl | rfl | rfl | rfl | rfl := hitem <;> rfl
  have hlabels : ∀ item ∈ labelledSettings, Line.IsKeyword item.label ∧
      item.label ∈ settingWords ∧
      ∀ i ∈ settings, Line.contains item.label i.label = true → i = item := by decide
  obtain ⟨hkeyword, hword, honly⟩ := hlabels item hitem
  have hfind := h.find?_line (looksFor_of_mem hkeyword hword) (List.mem_append_left _ hitem)
    (Line.contains_self item.label) honly
  rw [hread, reported_item hkeyword hfind]

theorem setting_physicalAddress (h : PrintsSettings values lines) :
    setting "physicalAddress" lines = values "physicalAddress" := by
  -- Both labels hold "address", which alone is a word of the reply.
  have hp : LooksFor settingWords fun line =>
      Line.contains "address" line && !Line.contains "logical address" line :=
    (looksFor_of_mem (by decide) (by decide)).and_not (looksFor_contains (by decide) (by decide))
  let item : Item := ⟨"physicalAddress", "physical address", false⟩
  have hfind : lines.find? _ = some (item.line values) :=
    h.find?_line hp (by decide) (by decide) (by decide)
  have hpadding := h.unpadded item (by decide)
  have hafter : ∀ rest, Text.after? "address".toList ("physical address".toList ++ rest) =
      some rest := fun _ => rfl
  change physicalAddress lines = _
  rw [physicalAddress, hfind]
  exact valueAfter_print hafter hpadding

theorem setting_logicalAddress (h : PrintsSettings values lines) :
    setting "logicalAddress" lines = values "logicalAddress" := by
  have hp : LooksFor settingWords (Line.contains "logical address") :=
    looksFor_contains (by decide) (by decide)
  let item : Item := ⟨"logicalAddress", "logical address", false⟩
  have hfind : lines.find? _ = some (item.line values) :=
    h.find?_line hp (by decide) (by decide) (by decide)
  have hpadding := h.unpadded item (by decide)
  have hafter : ∀ rest, Text.after? "logical address".toList
      ("logical address".toList ++ rest) = some rest := fun _ => rfl
  change reported "logical address" (Line.valueAfter "logical address") lines = _
  rw [reported_of_find? hfind]
  exact valueAfter_print hafter hpadding

theorem setting_eq (h : PrintsSettings values lines) :
    ∀ key ∈ readableKeys, setting key lines = values key := by
  have hitems : ∀ item ∈ settings, setting item.key lines = values item.key := by
    refine List.forall_mem_append.mpr ⟨h.setting_labelled, ?_⟩
    simpa [addressSettings] using ⟨h.setting_physicalAddress, h.setting_logicalAddress⟩
  have hkeys : readableKeys = settings.map (·.key) := rfl
  rw [hkeys]
  exact List.forall_mem_map.mpr hitems

end PrintsSettings

/-! ## Facts -/

theorem contains_eq_false_of_not_mem {word text : String} {c : Char} (hc : c ∈ word.toList)
    (hnot : c ∉ text.toList) : Line.contains word text = false := by
  rw [Bool.eq_false_iff]
  intro hcontains
  exact hnot (((Text.occurs_iff_isInfix _ _).mp hcontains).subset hc)

variable {number : Nat} {active : Bool}

theorem mem_activityLine {c : Char} (hc : c ∈ (activityLine number active).toList) :
    c.isDigit = true ∨
      c ∈ ("device " ++ if active then " is active" else " is not active").toList := by
  have hrender : (Decimal.render number).toList = Nat.toDigits 10 number := String.toList_ofList
  rw [activityLine, String.toList_append, String.toList_append, List.mem_append, List.mem_append,
    hrender] at hc
  rw [String.toList_append, List.mem_append]
  obtain (hstart | hdigit) | hend := hc
  · exact .inr (.inl hstart)
  · exact .inl (Nat.isDigit_of_mem_toDigits (by decide) (by decide) hdigit)
  · exact .inr (.inr hend)

theorem contains_activityLine_eq_false {word : String} (c : Char) (hc : c ∈ word.toList)
    (hdigit : c.isDigit = false)
    (hletter : c ∉ ("device " ++ if active then " is active" else " is not active").toList) :
    Line.contains word (activityLine number active) = false := by
  apply contains_eq_false_of_not_mem hc
  intro hmem
  obtain hmem | hmem := mem_activityLine hmem
  · exact Bool.false_ne_true (hdigit.symm.trans hmem)
  · exact hletter hmem

/-- Each label has a letter that the line lacks. -/
theorem contains_activityLine (hitem : item ∈ facts) :
    Line.contains item.label (activityLine number active) = false := by
  simp only [facts, List.mem_cons, List.not_mem_nil, or_false] at hitem
  obtain rfl | rfl | rfl | rfl := hitem
  · exact contains_activityLine_eq_false 'r' (by decide) (by decide) (by cases active <;> decide)
  · exact contains_activityLine_eq_false 'C' (by decide) (by decide) (by cases active <;> decide)
  · exact contains_activityLine_eq_false 'O' (by decide) (by decide) (by cases active <;> decide)
  · exact contains_activityLine_eq_false 'l' (by decide) (by decide) (by cases active <;> decide)

theorem contains_activityLine_of_end {word : String}
    (h : Line.contains word (if active then " is active" else " is not active") = true) :
    Line.contains word (activityLine number active) = true := by
  have hword := (Text.occurs_iff_isInfix _ _).mp h
  rw [Line.contains, Text.occurs_iff_isInfix, activityLine, String.toList_append]
  exact hword.trans (List.suffix_append _ _).isInfix

theorem contains_active_activityLine (number : Nat) (active : Bool) :
    Line.contains "active" (activityLine number active) = true := by
  apply contains_activityLine_of_end
  cases active <;> decide

theorem contains_notActive_activityLine (number : Nat) (active : Bool) :
    Line.contains "not active" (activityLine number active) = !active := by
  cases active with
  | true => exact contains_activityLine_eq_false 'o' (by decide) (by decide) (by decide)
  | false => exact contains_activityLine_of_end (by decide)

namespace PrintsFacts

theorem systemInformation_fact (h : PrintsFacts values number active lines) :
    ∀ item ∈ facts, systemInformation lines item.key = values item.key := by
  intro item hitem
  have hread : systemInformation lines item.key =
      reported item.label (Line.read item.quoted) lines := by
    simp only [facts, List.mem_cons, List.not_mem_nil, or_false] at hitem
    obtain rfl | rfl | rfl | rfl := hitem <;> rfl
  have hlabels : ∀ item ∈ facts, Line.IsKeyword item.label ∧ item.label ∈ factWords ∧
      ∀ i ∈ facts, Line.contains item.label i.label = true → i = item := by decide
  obtain ⟨hkeyword, hword, honly⟩ := hlabels item hitem
  have hp : LooksFor factWords (Line.contains item.label) := looksFor_of_mem hkeyword hword
  obtain ⟨others, hothers, hperm⟩ := h.perm
  have hrest : ∀ line ∈ activityLine number active :: others,
      Line.contains item.label line = false := by
    refine List.forall_mem_cons.mpr ⟨contains_activityLine hitem, ?_⟩
    intro line hline
    exact hp.other line (hothers line hline)
  have hfind : lines.find? (Line.contains item.label) = some (item.line values) :=
    find?_line hp h.avoids hrest hperm hitem (Line.contains_self item.label) honly
  rw [hread, reported_item hkeyword hfind]

theorem systemInformation_isActive (h : PrintsFacts values number active lines) :
    systemInformation lines "is-active" = if active then "true" else "false" := by
  obtain ⟨others, hothers, hperm⟩ := h.perm
  have hp : LooksFor factWords (Line.contains "active") :=
    looksFor_of_mem (by decide) (by decide)
  have hfind : lines.find? (Line.contains "active") = some (activityLine number active) := by
    apply find?_eq_some_of_unique
    · exact hperm.mem_iff.mpr (List.mem_append_right _ List.mem_cons_self)
    · exact contains_active_activityLine number active
    · intro line hline hpasses
      obtain hmem | hmem := List.mem_append.mp (hperm.mem_iff.mp hline)
      · have hlabels : ∀ i ∈ facts, Line.contains "active" i.label = false := by decide
        obtain ⟨i, hi, rfl⟩ := List.mem_map.mp hmem
        rw [Item.line, hp.printed _ _ _ (h.avoids i hi), hlabels i hi] at hpasses
        contradiction
      · obtain rfl | hmem := List.mem_cons.mp hmem
        · rfl
        · rw [hp.other line (hothers line hmem)] at hpasses
          contradiction
  change reported "active" _ lines = _
  rw [reported_of_find? hfind, contains_notActive_activityLine]
  cases active <;> rfl

theorem sendCommand_eq (h : PrintsFacts values number active lines) {arguments : List Argument}
    (harguments : ∀ a ∈ arguments, a.name ∈ Contract.systemInformationNames) :
    sendCommand ⟨"system-information", arguments⟩ lines =
      .ok (arguments.map fun a => ⟨a.name, factOf values active a.name⟩) := by
  have hnames : ∀ name ∈ Contract.systemInformationNames,
      name = "is-active" ∨ ∃ i ∈ facts, i.key = name := by decide
  have hfacts : ∀ i ∈ facts, i.key ≠ "is-active" := by decide
  rw [sendCommand_systemInformation rfl]
  congr 1
  apply List.map_congr_left
  intro a ha
  obtain hname | ⟨i, hi, hname⟩ := hnames a.name (harguments a ha)
  · rw [factOf, if_pos hname, hname, h.systemInformation_isActive]
  · rw [factOf, ← hname, if_neg (hfacts i hi), h.systemInformation_fact i hi]

end PrintsFacts

/-- Whatever the order of the lines is, each setting that can be read comes back with the value that
was printed for it, and `system-information` gives what was printed for each of its arguments. -/
theorem values_read_back (values : String → String) (lines : List String) :
    (PrintsSettings values lines → ∀ key ∈ readableKeys, setting key lines = values key) ∧
    ∀ number active (arguments : List Argument), PrintsFacts values number active lines →
      (∀ a ∈ arguments, a.name ∈ Contract.systemInformationNames) →
      sendCommand ⟨"system-information", arguments⟩ lines =
        .ok (arguments.map fun a => ⟨a.name, factOf values active a.name⟩) := by
  refine ⟨PrintsSettings.setting_eq, ?_⟩
  intro number active arguments hfacts harguments
  exact hfacts.sendCommand_eq harguments

/-- The logical address comes before the physical one, values hold colons, quotes and what would be
a marker in the other reply, and one argument is asked for twice. -/
theorem shuffled_values_read_back :
    let values : String → String := fun key =>
      (([("vendorId", "00e091: LG"), ("version", "1.4"), ("osd", "Bob's TV"), ("language", "eng"),
        ("powerState", "active"), ("physicalAddress", "1.0.0.0"), ("logicalAddress", ": 4"),
        ("vendor-id", "address"), ("name", "'TV'")] : List (String × String)).lookup key).getD ""
    let reply := ["logical address: : 4", "OSD name: 'Bob's TV'", "CEC version: 1.4", "bus 0",
      "physical address: 1.0.0.0", "power status: active", "language: 'eng'",
      "vendor id: 00e091: LG"]
    let report := ["language: 'eng'", "device 4 is not active", "vendor id: address", "bus 0",
      "OSD name: ''TV''", "CEC version: 1.4"]
    let arguments : List Argument := [⟨"is-active", none⟩, ⟨"name", none⟩, ⟨"is-active", none⟩]
    PrintsSettings values reply ∧ setting "physicalAddress" reply = "1.0.0.0" ∧
      setting "logicalAddress" reply = ": 4" ∧ PrintsFacts values 4 false report ∧
      sendCommand ⟨"system-information", arguments⟩ report =
        .ok [⟨"is-active", "false"⟩, ⟨"name", "'TV'"⟩, ⟨"is-active", "false"⟩] := by
  intro values reply report arguments
  have hsettings : PrintsSettings values reply :=
    ⟨by decide, by decide, ["bus 0"], by decide, by decide⟩
  have hfacts : PrintsFacts values 4 false report := ⟨by decide, ["bus 0"], by decide, by decide⟩
  have hsetting := (values_read_back values reply).1 hsettings
  have hsent := (values_read_back values report).2 4 false arguments hfacts (by decide)
  exact ⟨hsettings, hsetting "physicalAddress" (by decide), hsetting "logicalAddress" (by decide),
    hfacts, hsent⟩

end CecGateway.Reply
