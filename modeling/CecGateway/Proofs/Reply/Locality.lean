import CecGateway.Proofs.Reply.Records
import Mathlib.Data.List.Induction
import Mathlib.Data.List.ModifyLast

/-!
# Records do not touch each other

A dump may be cut before any line that starts a record: the records of the whole are those of the
parts. What a record holds is said by its own lines alone, a line more changes at most one field of
the last record, and a field that has a value keeps it (`records_are_local`).
-/

namespace CecGateway.Reply

variable {header line : String} {body after : List String}

/-! ## Where a record is -/

theorem takeWhile_append_header (hheader : startsRecord header = true) (xs ys : List String) :
    (xs ++ header :: ys).takeWhile (!startsRecord ·) = xs.takeWhile (!startsRecord ·) := by
  induction xs with
  | nil => simp [hheader]
  | cons x xs ih =>
      by_cases hx : startsRecord x = true
      · simp [hx]
      · simp [hx, ih]

theorem sections_append (hheader : startsRecord header = true) (xs ys : List String) :
    sections (xs ++ header :: ys) = sections xs ++ sections (header :: ys) := by
  induction xs with
  | nil => rfl
  | cons x xs ih =>
      rw [List.cons_append]
      cases hx : startsRecord x with
      | true =>
        rw [sections_cons_of_starts hx, sections_cons_of_starts hx, ih,
          takeWhile_append_header hheader, List.cons_append]
      | false => rw [sections_cons_of_not_starts hx, sections_cons_of_not_starts hx, ih]

theorem devices_append (hheader : startsRecord header = true) (xs ys : List String) :
    devices (xs ++ header :: ys) = devices xs ++ devices (header :: ys) := by
  rw [devices_eq, devices_eq, devices_eq, sections_append hheader, List.map_append]

theorem map_header_sections (lines : List String) :
    (sections lines).map (·.header) = lines.filter startsRecord := by
  induction lines with
  | nil => rfl
  | cons line rest ih =>
      cases hstarts : startsRecord line with
      | true =>
        rw [sections_cons_of_starts hstarts, List.map_cons, ih, List.filter_cons_of_pos hstarts]
      | false =>
        rw [sections_cons_of_not_starts hstarts, ih,
          List.filter_cons_of_neg (Bool.eq_false_iff.mp hstarts)]

theorem length_sections (lines : List String) :
    (sections lines).length = lines.countP startsRecord := by
  rw [← List.length_map (·.header), map_header_sections, List.countP_eq_length_filter]

theorem sections_append_of_not_starts (hbody : ∀ line ∈ body, startsRecord line = false)
    (rest : List String) : sections (body ++ rest) = sections rest := by
  induction body with
  | nil => rfl
  | cons line body ih =>
      rw [List.forall_mem_cons] at hbody
      rw [List.cons_append, sections_cons_of_not_starts hbody.1, ih hbody.2]

theorem IsRecord.sections_eq (h : IsRecord header body after) :
    sections (header :: (body ++ after)) = ⟨header, body⟩ :: sections after := by
  have hafter : after.takeWhile (!startsRecord ·) = [] := by
    cases after with
    | nil => rfl
    | cons next rest => exact List.takeWhile_cons_of_neg (by simp [h.ends next rfl])
  have hbody : (body ++ after).takeWhile (!startsRecord ·) = body := by
    rw [List.takeWhile_append_of_pos (by simpa using h.goes_on), hafter, List.append_nil]
  rw [sections_cons_of_starts h.starts, hbody, sections_append_of_not_starts h.goes_on]

theorem IsRecord.getElem?_devices (h : IsRecord header body after) (before : List String) :
    (devices (before ++ header :: (body ++ after)))[before.countP startsRecord]? =
      some (Section.device ⟨header, body⟩) := by
  rw [devices_eq, sections_append h.starts, h.sections_eq, ← length_sections, List.map_append,
    ← List.length_map (·.device), List.getElem?_append_right (Nat.le_refl _), Nat.sub_self]
  rfl

/-! ## What a record holds -/

/-- The fields that lines give to a record of no name. -/
def content (body : List String) : Device := body.foldl fill {}

theorem fill_named (d : Device) (name line : String) :
    fill { d with name } line = { fill d line with name } := by
  have hset : ∀ f ∈ fields, ∀ value, f.set value { d with name } = { f.set value d with name } := by
    simp [fields]
  have hsame : fields.find? (fun f =>
      (f.get { d with name }).isEmpty && Line.contains f.marker line) =
        fields.find? (fun f => (f.get d).isEmpty && Line.contains f.marker line) := rfl
  unfold fill
  rw [hsame]
  split
  · next f hfind => exact hset f (List.mem_of_find?_eq_some hfind) _
  · rfl

theorem Section.device_eq (s : Section) :
    s.device = { content s.body with name := Line.value s.header } := by
  have hfold : ∀ (body : List String) (d : Device) (name : String),
      body.foldl fill { d with name } = { body.foldl fill d with name } := by
    intro body
    induction body with
    | nil => exact fun _ _ => rfl
    | cons line body ih =>
        intro d name
        rw [List.foldl_cons, List.foldl_cons, fill_named, ih]
  exact hfold s.body {} (Line.value s.header)

theorem map_name_devices (lines : List String) :
    (devices lines).map (·.name) = (lines.filter startsRecord).map Line.value := by
  rw [devices_eq, ← map_header_sections, List.map_map, List.map_map]
  apply List.map_congr_left
  intro s _
  exact name_foldl_fill s.body _

/-! ## One line more -/

theorem records_cons_of_starts (hheader : startsRecord header = true) (current : Option Device)
    (rest : List String) :
    records current (header :: rest) =
      current.toList ++ records (some { name := Line.value header }) rest :=
  if_pos hheader

theorem records_cons_of_not_starts (hline : startsRecord line = false) (current : Option Device)
    (rest : List String) :
    records current (line :: rest) = records (current.map (fill · line)) rest :=
  if_neg (Bool.eq_false_iff.mp hline)

theorem records_concat (hline : startsRecord line = false) (current : Option Device)
    (lines : List String) :
    records current (lines ++ [line]) = (records current lines).modifyLast (fill · line) := by
  induction lines generalizing current with
  | nil =>
      rw [List.nil_append, records_cons_of_not_starts hline]
      cases current <;> rfl
  | cons first rest ih =>
      rw [List.cons_append]
      cases hfirst : startsRecord first with
      | true =>
        have hne : records (some { name := Line.value first }) rest ≠ [] := by
          rw [records_eq]
          exact List.cons_ne_nil _ _
        rw [records_cons_of_starts hfirst, records_cons_of_starts hfirst, ih,
          List.modifyLast_append_of_right_ne_nil _ _ _ hne]
      | false => rw [records_cons_of_not_starts hfirst, records_cons_of_not_starts hfirst, ih]

theorem getElem?_devices_concat {lines : List String} {i : Nat} {d : Device}
    (hd : (devices lines)[i]? = some d) (line : String) :
    (devices (lines ++ [line]))[i]? = some d ∨
      i + 1 = (devices lines).length ∧ (devices (lines ++ [line]))[i]? = some (fill d line) := by
  have hlt : i < (devices lines).length := (List.getElem?_eq_some_iff.mp hd).1
  by_cases hline : startsRecord line = true
  · rw [devices_append hline, List.getElem?_append_left hlt]
    exact .inl hd
  · have hconcat : devices (lines ++ [line]) = (devices lines).modifyLast (fill · line) :=
      records_concat (Bool.eq_false_iff.mpr hline) none lines
    obtain hnil | ⟨before, last, hsplit⟩ := List.eq_nil_or_concat (devices lines)
    · simp [hnil] at hlt
    · rw [List.concat_eq_append] at hsplit
      rw [hconcat, hsplit, List.modifyLast_concat]
      rw [hsplit] at hd hlt
      rw [List.length_append, List.length_singleton] at hlt ⊢
      by_cases hlast : i < before.length
      · rw [List.getElem?_append_left hlast] at hd ⊢
        exact .inl hd
      · obtain rfl : i = before.length := by omega
        rw [List.getElem?_concat_length, Option.some_inj] at hd
        exact .inr ⟨rfl, by rw [List.getElem?_concat_length, hd]⟩

/-- Every record keeps its place, its name and each field that is not empty. -/
def Keeps (old new : List Device) : Prop :=
  ∀ (i : Nat) (d : Device), old[i]? = some d → ∃ d', new[i]? = some d' ∧ d'.name = d.name ∧
    ∀ f ∈ fields, f.get d ≠ "" → f.get d' = f.get d

/-- At most one field of one record is another. -/
def ChangesOne (old new : List Device) : Prop :=
  ∃ i : Nat, ∃ f ∈ fields, ∀ (j : Nat) (d d' : Device), old[j]? = some d → new[j]? = some d' →
    ∀ g ∈ fields, (j = i ∧ g.marker = f.marker) ∨ g.get d' = g.get d

theorem keeps_concat (lines : List String) (line : String) :
    Keeps (devices lines) (devices (lines ++ [line])) := by
  intro i d hd
  obtain hsame | ⟨-, hfill⟩ := getElem?_devices_concat hd line
  · exact ⟨d, hsame, rfl, fun _ _ _ => rfl⟩
  · refine ⟨fill d line, hfill, name_fill d line, ?_⟩
    intro f hf hne
    exact get_fill_of_ne hf hne line

theorem keeps_append (lines more : List String) :
    Keeps (devices lines) (devices (lines ++ more)) := by
  induction more using List.reverseRecOn with
  | nil =>
      intro i d hd
      rw [List.append_nil]
      exact ⟨d, hd, rfl, fun _ _ _ => rfl⟩
  | append_singleton more line ih =>
      intro i d hd
      obtain ⟨d₁, hd₁, hname₁, hget₁⟩ := ih i d hd
      obtain ⟨d₂, hd₂, hname₂, hget₂⟩ := keeps_concat (lines ++ more) line i d₁ hd₁
      rw [List.append_assoc] at hd₂
      refine ⟨d₂, hd₂, hname₂.trans hname₁, ?_⟩
      intro f hf hne
      have hkept := hget₁ f hf hne
      exact (hget₂ f hf (hkept ▸ hne)).trans hkept

theorem changesOne_concat (lines : List String) (line : String) :
    ChangesOne (devices lines) (devices (lines ++ [line])) := by
  -- Only the last record is open, and what it holds says which of its fields the line is for.
  obtain ⟨f, hf, hfield⟩ := exists_field_fill ((devices lines).getLast?.getD {}) line
  refine ⟨(devices lines).length - 1, f, hf, ?_⟩
  intro j d d' hd hd' g hg
  obtain hsame | ⟨hlast, hfill⟩ := getElem?_devices_concat hd line
  · obtain rfl := Option.some_inj.mp (hsame.symm.trans hd')
    exact .inr rfl
  · obtain rfl := Option.some_inj.mp (hfill.symm.trans hd')
    have hj : j = (devices lines).length - 1 := by omega
    have hopen : (devices lines).getLast? = some d := by
      rw [List.getLast?_eq_getElem?, ← hj, hd]
    rw [hopen] at hfield
    exact (hfield g hg).imp_left fun hmarker => ⟨hj, hmarker⟩

/-- A dump may be cut before every line that starts a record. It has one record for each such line,
under the value of the line and with the fields that the lines up to the next one give. Of the
records that are there, a line changes at most one field of one, and no line changes a field that
has a value. -/
theorem records_are_local :
    (∀ xs header ys, startsRecord header = true →
      devices (xs ++ header :: ys) = devices xs ++ devices (header :: ys)) ∧
    (∀ lines, (devices lines).map (·.name) = (lines.filter startsRecord).map Line.value) ∧
    (∀ before header body after, IsRecord header body after →
      (devices (before ++ header :: (body ++ after)))[before.countP startsRecord]? =
        some { content body with name := Line.value header }) ∧
    (∀ lines more, Keeps (devices lines) (devices (lines ++ more))) ∧
    ∀ lines line, ChangesOne (devices lines) (devices (lines ++ [line])) := by
  refine ⟨?_, map_name_devices, ?_, keeps_append, changesOne_concat⟩
  · intro xs header ys hheader
    exact devices_append hheader xs ys
  · intro before header body after hrecord
    rw [hrecord.getElem?_devices before, Section.device_eq]

/-- A dump with a line before its first record and a record that ends with the dump, cut before the
second of two records that follow each other at once. -/
theorem adjacent_records_are_local :
    let first := ["vendor: none", "device: TV"]
    let second := ["device: Player", "vendor: LG", "address: 1.0.0.0"]
    devices (first ++ second) = devices first ++ devices second ∧
      (devices (first ++ second))[1]? =
        some { name := "Player", address := "1.0.0.0", vendor := "LG" } := by
  intro first second
  have hheader : startsRecord "device: Player" = true := by decide
  have hrecord : IsRecord "device: Player" ["vendor: LG", "address: 1.0.0.0"] [] :=
    ⟨hheader, by decide, by simp⟩
  exact ⟨records_are_local.1 first _ _ hheader, records_are_local.2.2.1 first _ _ [] hrecord⟩

end CecGateway.Reply
