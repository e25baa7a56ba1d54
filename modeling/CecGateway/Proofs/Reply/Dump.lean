import CecGateway.Proofs.Reply.Locality
import CecGateway.Proofs.Text.Marker

/-!
# Printed dumps

A dump that prints a list of devices reads back as that list (`dumps_read_back`): the fields of a
device may come in any order, an empty one may be left out, and lines of another kind may stand
anywhere.
-/

namespace CecGateway.Reply

/-- The words that tell the lines of a dump apart. -/
def dumpWords : List String := "device" :: fields.map (·.marker)

def Field.line (f : Field) (d : Device) : String := Line.print f.quoted f.marker (f.get d)

def header (label : String) (d : Device) : String := Line.print false ("device" ++ label) d.name

/-- The lines give the fields of the device in some order, each once or, if it is empty, perhaps
not at all, and are otherwise none of a dump's. -/
def PrintsFields (d : Device) (body : List String) : Prop :=
  ∃ (printed : List Field) (others : List String), printed.Sublist fields ∧
    (∀ f ∈ fields, f.get d ≠ "" → f ∈ printed) ∧ (∀ line ∈ others, Line.Avoids dumpWords line) ∧
    body.Perm (printed.map (·.line d) ++ others)

/-- A dump of the devices, from its first record on. -/
inductive Dumps : List Device → List String → Prop
  | nil : Dumps [] []
  | cons {d : Device} {ds : List Device} {label : String} {body lines : List String}
      (hlabel : ':' ∉ label.toList) (hbody : PrintsFields d body) (hrest : Dumps ds lines) :
      Dumps (d :: ds) (header label d :: (body ++ lines))

/-! ## One line -/

variable {f g : Field} {d : Device} {label line : String} {body lines : List String}

theorem mem_dumpWords (hf : f ∈ fields) : f.marker ∈ dumpWords :=
  List.mem_cons_of_mem _ (List.mem_map_of_mem hf)

theorem isKeyword_of_mem_dumpWords {word : String} (h : word ∈ dumpWords) :
    Line.IsKeyword word := by
  have hall : ∀ word ∈ dumpWords, Line.IsKeyword word := by decide
  exact hall word h

theorem contains_line {word : String} (hword : word ∈ dumpWords)
    (hplain : Line.Avoids dumpWords (f.get d)) :
    Line.contains word (f.line d) = Line.contains word f.marker := by
  rw [Field.line, Line.contains_print (isKeyword_of_mem_dumpWords hword), hplain word hword,
    Bool.or_false]

/-- A printed field has its own marker and no other. -/
theorem contains_line_iff (hf : f ∈ fields) (hg : g ∈ fields)
    (hplain : Line.Avoids dumpWords (f.get d)) :
    Line.contains g.marker (f.line d) = true ↔ g = f := by
  rw [contains_line (mem_dumpWords hg) hplain]
  constructor
  · intro hmarker
    have hall : ∀ f ∈ fields, ∀ g ∈ fields,
        Line.contains g.marker f.marker = true → g.marker = f.marker := by decide
    exact eq_of_marker_eq hg hf (hall f hf g hg hmarker)
  · rintro rfl
    exact Line.contains_self g.marker

theorem read_line (hf : f ∈ fields) (d : Device) : f.read (f.line d) = f.get d := by
  have hall : ∀ f ∈ fields, ':' ∉ f.marker.toList ∧ '\'' ∉ f.marker.toList := by decide
  obtain ⟨hcolon, hquote⟩ := hall f hf
  exact Line.read_print hcolon hquote f.quoted (f.get d)

theorem startsRecord_line (hf : f ∈ fields) (hplain : Line.Avoids dumpWords (f.get d)) :
    startsRecord (f.line d) = false := by
  have hall : ∀ f ∈ fields, Line.contains "device" f.marker = false := by decide
  rw [startsRecord, contains_line List.mem_cons_self hplain, hall f hf]

theorem startsRecord_header (label : String) (d : Device) :
    startsRecord (header label d) = true := by
  have hlabel : Line.contains "device" ("device" ++ label) = true := by
    rw [Line.contains, Text.occurs_iff_isInfix, String.toList_append]
    exact (List.prefix_append _ _).isInfix
  rw [startsRecord, header, Line.contains_print (by decide), hlabel, Bool.true_or]

theorem value_header (hlabel : ':' ∉ label.toList) (d : Device) :
    Line.value (header label d) = d.name := by
  apply Line.value_print
  rw [String.toList_append, List.mem_append, not_or]
  exact ⟨by decide, hlabel⟩

/-! ## One record -/

theorem eq_of_get_eq {d e : Device} (hname : d.name = e.name)
    (hget : ∀ f ∈ fields, f.get d = f.get e) : d = e := by
  obtain ⟨⟩ := d
  obtain ⟨⟩ := e
  rw [Device.mk.injEq]
  exact ⟨hname, by simpa [fields] using hget⟩

theorem PrintsFields.cases_of_mem (h : PrintsFields d body) (hline : line ∈ body) :
    (∃ f ∈ fields, line = f.line d) ∨ Line.Avoids dumpWords line := by
  obtain ⟨printed, others, hprinted, -, hothers, hperm⟩ := h
  obtain hmem | hmem := List.mem_append.mp (hperm.mem_iff.mp hline)
  · obtain ⟨f, hf, rfl⟩ := List.mem_map.mp hmem
    exact .inl ⟨f, hprinted.subset hf, rfl⟩
  · exact .inr (hothers line hmem)

theorem PrintsFields.line_mem (h : PrintsFields d body) (hf : f ∈ fields) (hne : f.get d ≠ "") :
    f.line d ∈ body := by
  obtain ⟨printed, others, -, hcovers, -, hperm⟩ := h
  exact hperm.mem_iff.mpr (List.mem_append_left _ (List.mem_map_of_mem (hcovers f hf hne)))

theorem PrintsFields.startsRecord_eq_false (h : PrintsFields d body)
    (hplain : ∀ f ∈ fields, Line.Avoids dumpWords (f.get d)) (hline : line ∈ body) :
    startsRecord line = false := by
  obtain ⟨f, hf, rfl⟩ | havoids := h.cases_of_mem hline
  · exact startsRecord_line hf (hplain f hf)
  · exact havoids _ List.mem_cons_self

/-- Of the lines of a printed record, only the line of a field has the marker of the field. -/
theorem PrintsFields.eq_line_of_contains (h : PrintsFields d body)
    (hplain : ∀ f ∈ fields, Line.Avoids dumpWords (f.get d)) (hline : line ∈ body)
    (hf : f ∈ fields) (hmarker : Line.contains f.marker line = true) : line = f.line d := by
  obtain ⟨g, hg, rfl⟩ | havoids := h.cases_of_mem hline
  · rw [(contains_line_iff hg hf (hplain g hg)).mp hmarker]
  · rw [havoids _ (mem_dumpWords hf)] at hmarker
    contradiction

theorem PrintsFields.device_eq (h : PrintsFields d body)
    (hplain : ∀ f ∈ fields, Line.Avoids dumpWords (f.get d)) (hlabel : ':' ∉ label.toList) :
    Section.device ⟨header label d, body⟩ = d := by
  apply eq_of_get_eq
  · exact (name_foldl_fill body _).trans (value_header hlabel d)
  · intro f hf
    -- A line of the body with the marker of `f` prints `f`, so no other field takes it.
    have hleads : ∀ line ∈ body, f.Leads line := by
      intro line hline
      apply Field.Leads.of_unique hf
      intro g hg hmarker hother
      rw [h.eq_line_of_contains hplain hline hf hmarker] at hother
      exact (contains_line_iff hf hg (hplain f hf)).mp hother
    rw [Section.get_device hf hleads]
    apply valueIn_eq_of_forall
    · intro line hline hmarker
      rw [h.eq_line_of_contains hplain hline hf hmarker, read_line hf]
    · intro hne
      exact ⟨f.line d, h.line_mem hf hne, (contains_line_iff hf hf (hplain f hf)).mpr rfl⟩

/-! ## The dump -/

theorem Dumps.startsRecord_of_head? {ds : List Device} (h : Dumps ds lines) :
    ∀ next ∈ lines.head?, startsRecord next = true := by
  cases h with
  | nil => simp
  | cons hlabel hbody hrest =>
      intro next hnext
      obtain rfl := Option.some_inj.mp hnext
      exact startsRecord_header _ _

theorem Dumps.map_device_sections {ds : List Device} (h : Dumps ds lines)
    (hplain : ∀ d ∈ ds, ∀ f ∈ fields, Line.Avoids dumpWords (f.get d)) :
    (sections lines).map (·.device) = ds := by
  induction h with
  | nil => rfl
  | @cons d ds label body lines hlabel hbody hrest ih =>
      rw [List.forall_mem_cons] at hplain
      have hrecord : IsRecord (header label d) body lines :=
        ⟨startsRecord_header label d, fun line => hbody.startsRecord_eq_false hplain.1,
          hrest.startsRecord_of_head?⟩
      rw [hrecord.sections_eq, List.map_cons, ih hplain.2, hbody.device_eq hplain.1 hlabel]

/-- Where no field has a word of a dump in its value, reading the dump gives the devices that were
printed, whatever their names are and whatever stands before the first. -/
theorem dumps_read_back (ds : List Device) (lead lines : List String)
    (hplain : ∀ d ∈ ds, ∀ f ∈ fields, Line.Avoids dumpWords (f.get d))
    (hlead : ∀ line ∈ lead, Line.Avoids dumpWords line) (hdump : Dumps ds lines) :
    devices (lead ++ lines) = ds := by
  have hskip : sections (lead ++ lines) = sections lines := by
    apply sections_append_of_not_starts
    intro line hline
    exact hlead line hline _ List.mem_cons_self
  rw [devices_eq, hskip]
  exact hdump.map_device_sections hplain

theorem printsFields_of_filter (p : Field → Bool) (others : List String)
    (hcovers : ∀ f ∈ fields, f.get d ≠ "" → p f = true)
    (hothers : ∀ line ∈ others, Line.Avoids dumpWords line)
    (hperm : body.Perm ((fields.filter p).map (·.line d) ++ others)) : PrintsFields d body := by
  refine ⟨fields.filter p, others, List.filter_sublist, ?_, hothers, hperm⟩
  intro f hf hne
  exact List.mem_filter.mpr ⟨hf, hcovers f hf hne⟩

/-- A name with a colon and with words of a dump, a value with a colon and one with a quote, fields
in an order of their own and an empty one among them. -/
theorem living_room_dump_reads_back :
    let tv : Device := { name := "TV: vendor's device", address := "0.0.0.0", vendor := "LG: 55",
                         osd := "Bob's TV" }
    let player : Device := { name := "Player", address := "1.0.0.0" }
    devices ["CEC bus", "device #0: TV: vendor's device", "osd string: 'Bob's TV'", "physical",
      "vendor: LG: 55", "power status: ", "address: 0.0.0.0", "device: Player",
      "address: 1.0.0.0"] = [tv, player] := by
  intro tv player
  have htv : PrintsFields tv ["osd string: 'Bob's TV'", "physical", "vendor: LG: 55",
      "power status: ", "address: 0.0.0.0"] := by
    apply printsFields_of_filter
      (fun f => f.marker ∈ ["address", "vendor", "osd string", "power status"]) ["physical"]
    all_goals decide
  have hplayer : PrintsFields player ["address: 1.0.0.0"] := by
    apply printsFields_of_filter (fun f => f.marker = "address") []
    all_goals decide
  have hfirst : ':' ∉ " #0".toList := by decide
  have hsecond : ':' ∉ "".toList := by decide
  have hdump := Dumps.cons hfirst htv (.cons hsecond hplayer .nil)
  exact dumps_read_back [tv, player] ["CEC bus"] _ (by decide) (by decide) hdump

end CecGateway.Reply
