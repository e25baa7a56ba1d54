import CecGateway.Proofs.Reply.Fields
import Mathlib.Data.List.TakeWhile

/-!
# The records of a dump

A dump falls into records, each of a line that starts it and the lines up to the next such line. A
line that does not start a record fills at most one field; the address is that of the first line
with the marker that has one, and is empty if no line has.
-/

namespace CecGateway.Reply

/-- A line that starts a record, and the lines that may fill it. -/
structure Section where
  header : String
  body : List String

def sections : List String → List Section
  | [] => []
  | line :: rest =>
    if startsRecord line then ⟨line, rest.takeWhile (!startsRecord ·)⟩ :: sections rest
    else sections rest

variable {header line : String}

theorem sections_cons_of_starts (hheader : startsRecord header = true) (rest : List String) :
    sections (header :: rest) = ⟨header, rest.takeWhile (!startsRecord ·)⟩ :: sections rest :=
  if_pos hheader

theorem sections_cons_of_not_starts (hline : startsRecord line = false) (rest : List String) :
    sections (line :: rest) = sections rest :=
  if_neg (Bool.eq_false_iff.mp hline)

def Section.device (s : Section) : Device := s.body.foldl fill { name := Line.value s.header }

theorem records_eq (current : Option Device) (lines : List String) :
    records current lines =
      (current.map ((lines.takeWhile (!startsRecord ·)).foldl fill)).toList ++
        (sections lines).map (·.device) := by
  induction lines generalizing current with
  | nil => cases current <;> rfl
  | cons line rest ih =>
      by_cases hstarts : startsRecord line = true
      · cases current <;> simp [records, sections, hstarts, ih, Section.device]
      · cases current <;> simp [records, sections, hstarts, ih]

theorem devices_eq (lines : List String) : devices lines = (sections lines).map (·.device) :=
  records_eq none lines

/-- A line that starts a record and lines that do not, up to the next record or to the end. -/
structure IsRecord (header : String) (body after : List String) : Prop where
  starts : startsRecord header = true
  goes_on : ∀ line ∈ body, startsRecord line = false
  ends : ∀ next ∈ after.head?, startsRecord next = true

theorem isRecord_takeWhile (hheader : startsRecord header = true) (rest : List String) :
    IsRecord header (rest.takeWhile (!startsRecord ·)) (rest.dropWhile (!startsRecord ·)) where
  starts := hheader
  goes_on := by
    intro line hline
    simpa using List.mem_takeWhile_imp hline
  ends := by
    intro next hnext
    have hstop := List.head?_dropWhile_not (fun line => !startsRecord line) rest
    rw [Option.mem_def] at hnext
    simpa [hnext] using hstop

/-- The record at this place of a dump, after so many lines that start one, has these lines. -/
def RecordAt (lines : List String) (i : Nat) (header : String) (body : List String) : Prop :=
  ∃ before after, lines = before ++ header :: (body ++ after) ∧ IsRecord header body after ∧
    before.countP startsRecord = i

/-- A line in front moves a record on by one place exactly if it starts a record itself. -/
theorem RecordAt.cons {lines body : List String} {i : Nat} (h : RecordAt lines i header body)
    (line : String) :
    RecordAt (line :: lines) (i + if startsRecord line = true then 1 else 0) header body := by
  obtain ⟨before, after, rfl, hrecord, rfl⟩ := h
  exact ⟨line :: before, after, rfl, hrecord, List.countP_cons⟩

theorem recordAt_of_sections {s : Section} {i : Nat} {lines : List String}
    (h : (sections lines)[i]? = some s) : RecordAt lines i s.header s.body := by
  induction lines generalizing i with
  | nil => simp [sections] at h
  | cons line rest ih =>
      cases hstarts : startsRecord line with
      | false =>
        rw [sections_cons_of_not_starts hstarts] at h
        simpa [hstarts] using (ih h).cons line
      | true =>
        rw [sections_cons_of_starts hstarts] at h
        cases i with
        | zero =>
          obtain rfl := Option.some_inj.mp h
          refine ⟨[], rest.dropWhile (!startsRecord ·), ?_, isRecord_takeWhile hstarts rest, rfl⟩
          rw [List.takeWhile_append_dropWhile, List.nil_append]
        | succ i => simpa [hstarts] using (ih h).cons line

theorem exists_isRecord_of_mem {s : Section} {lines : List String} (h : s ∈ sections lines) :
    ∃ before after, lines = before ++ s.header :: (s.body ++ after) ∧
      IsRecord s.header s.body after := by
  obtain ⟨i, hi⟩ := List.mem_iff_getElem?.mp h
  obtain ⟨before, after, hsplit, hrecord, -⟩ := recordAt_of_sections hi
  exact ⟨before, after, hsplit, hrecord⟩

theorem Section.get_device {s : Section} {f : Field} (hf : f ∈ fields)
    (hleads : ∀ line ∈ s.body, f.Leads line) : f.get s.device = f.valueIn s.body := by
  rw [Section.device, get_foldl_fill hf hleads, if_pos (get_named hf _)]

/-! ## The address -/

/-- What lines have to say of the address: the first value that is not empty. -/
def addressIn (lines : List String) : String :=
  (((lines.filter (Line.contains "address")).map Line.value).find? (· ≠ "")).getD ""

/-- The address is the first of the fields. -/
def Field.address : Field := fields.head (List.cons_ne_nil _ _)

theorem addressIn_eq_valueIn (lines : List String) :
    addressIn lines = Field.address.valueIn lines :=
  rfl

theorem Section.address_device (s : Section) : s.device.address = addressIn s.body := by
  have hleads : ∀ line ∈ s.body, Field.address.Leads line := by
    intro line _ hmarker
    exact List.find?_cons_of_pos hmarker
  exact s.get_device (List.head_mem _) hleads

/-- A line in some record gives this address. -/
def NamesAddress (lines : List String) (address : String) : Prop :=
  ∃ before header body after line, lines = before ++ header :: (body ++ after) ∧
    startsRecord header = true ∧ (∀ other ∈ body, startsRecord other = false) ∧ line ∈ body ∧
    Line.contains "address" line = true ∧ Line.value line = address

/-- Some record, up to the next or to the end, has no line that gives an address. -/
def LeavesAddress (lines : List String) : Prop :=
  ∃ before header body after, lines = before ++ header :: (body ++ after) ∧
    startsRecord header = true ∧ (∀ next ∈ after.head?, startsRecord next = true) ∧
    ∀ line ∈ body, startsRecord line = false ∧
      (Line.contains "address" line = true → Line.value line = "")

variable {s : Section} {lines : List String} {address : String}

theorem namesAddress_of_mem (hmem : s ∈ sections lines) (hne : address ≠ "")
    (h : addressIn s.body = address) : NamesAddress lines address := by
  obtain ⟨before, after, hsplit, hrecord⟩ := exists_isRecord_of_mem hmem
  rw [addressIn_eq_valueIn] at h
  subst h
  obtain ⟨line, hline, hmarked, hvalue⟩ := exists_line_of_valueIn hne
  exact ⟨before, s.header, s.body, after, line, hsplit, hrecord.starts, hrecord.goes_on, hline,
    hmarked, hvalue⟩

theorem leavesAddress_of_mem (hmem : s ∈ sections lines) (h : addressIn s.body = "") :
    LeavesAddress lines := by
  obtain ⟨before, after, hsplit, hrecord⟩ := exists_isRecord_of_mem hmem
  rw [addressIn_eq_valueIn, valueIn_eq_empty_iff] at h
  exact ⟨before, s.header, s.body, after, hsplit, hrecord.starts, hrecord.ends,
    fun line hline => ⟨hrecord.goes_on line hline, h line hline⟩⟩

end CecGateway.Reply
