import CecGateway.Reply.Scan

/-!
# What one line does to a record

A line that does not start a record sets at most one field, and only one that is still empty. So a
field ends as the first value that is not empty, on the lines where no field before it has a marker
(`get_foldl_fill`).
-/

namespace CecGateway.Reply

variable {f g : Field} {d : Device} {line : String} {lines : List String}

/-! ## Fields of a record -/

theorem eq_of_marker_eq (hf : f ∈ fields) (hg : g ∈ fields) (h : f.marker = g.marker) : f = g := by
  have hall : ∀ f ∈ fields, ∀ g ∈ fields, f.marker = g.marker → f = g := by simp [fields]
  exact hall f hf g hg h

theorem get_named (hf : f ∈ fields) (name : String) : f.get { name } = "" := by
  have hall : ∀ f ∈ fields, f.get { name } = "" := by simp [fields]
  exact hall f hf

theorem get_set (hf : f ∈ fields) (value : String) (d : Device) :
    f.get (f.set value d) = value := by
  have hall : ∀ f ∈ fields, ∀ value d, f.get (f.set value d) = value := by simp [fields]
  exact hall f hf value d

theorem get_set_of_ne (hf : f ∈ fields) (hg : g ∈ fields) (hne : g.marker ≠ f.marker)
    (value : String) (d : Device) : g.get (f.set value d) = g.get d := by
  have hall : ∀ f ∈ fields, ∀ g ∈ fields, g.marker ≠ f.marker → ∀ value d,
      g.get (f.set value d) = g.get d := by simp [fields]
  exact hall f hf g hg hne value d

theorem name_set (hf : f ∈ fields) (value : String) (d : Device) :
    (f.set value d).name = d.name := by
  have hall : ∀ f ∈ fields, ∀ value d, (f.set value d).name = d.name := by simp [fields]
  exact hall f hf value d

/-! ## One line -/

theorem fill_cases (d : Device) (line : String) :
    fill d line = d ∨ ∃ f ∈ fields, f.get d = "" ∧ Line.contains f.marker line = true ∧
      fill d line = f.set (f.read line) d := by
  unfold fill
  split
  · next f hfind =>
      have hmem := List.mem_of_find?_eq_some hfind
      have hfills := List.find?_some hfind
      simp only [Bool.and_eq_true, String.isEmpty_iff] at hfills
      exact .inr ⟨f, hmem, hfills.1, hfills.2, rfl⟩
  · exact .inl rfl

theorem name_fill (d : Device) (line : String) : (fill d line).name = d.name := by
  obtain hfill | ⟨f, hf, -, -, hfill⟩ := fill_cases d line
  · rw [hfill]
  · rw [hfill, name_set hf]

/-- Once a field has a value, no line changes it. -/
theorem get_fill_of_ne (hf : f ∈ fields) (hne : f.get d ≠ "") (line : String) :
    f.get (fill d line) = f.get d := by
  obtain hfill | ⟨g, hg, hempty, -, hfill⟩ := fill_cases d line
  · rw [hfill]
  · rw [hfill]
    apply get_set_of_ne hg hf
    intro hmarker
    exact hne (eq_of_marker_eq hf hg hmarker ▸ hempty)

theorem get_fill_of_not_contains (hf : f ∈ fields) (d : Device)
    (hmarker : Line.contains f.marker line = false) : f.get (fill d line) = f.get d := by
  obtain hfill | ⟨g, hg, -, hcontains, hfill⟩ := fill_cases d line
  · rw [hfill]
  · rw [hfill]
    apply get_set_of_ne hg hf
    intro heq
    rw [heq, hcontains] at hmarker
    contradiction

/-- There is one field that a line may change in a record. -/
theorem exists_field_fill (d : Device) (line : String) :
    ∃ f ∈ fields, ∀ g ∈ fields, g.marker = f.marker ∨ g.get (fill d line) = g.get d := by
  obtain hfill | ⟨f, hf, -, -, hfill⟩ := fill_cases d line
  · refine ⟨fields.head (by simp [fields]), List.head_mem _, ?_⟩
    intro g _
    exact .inr (by rw [hfill])
  · refine ⟨f, hf, ?_⟩
    intro g hg
    by_cases hmarker : g.marker = f.marker
    · exact .inl hmarker
    · exact .inr (hfill ▸ get_set_of_ne hf hg hmarker (f.read line) d)

/-! ## The lines of a record -/

/-- On a line with the marker of the field, no field before it has its marker. -/
def Field.Leads (f : Field) (line : String) : Prop :=
  Line.contains f.marker line = true →
    fields.find? (fun g => Line.contains g.marker line) = some f

theorem find?_eq_some_of_unique {α : Type} {p : α → Bool} {items : List α} {item : α}
    (hmem : item ∈ items) (hitem : p item = true)
    (honly : ∀ other ∈ items, p other = true → other = item) : items.find? p = some item := by
  cases hfind : items.find? p with
  | none => exact absurd hitem (List.find?_eq_none.mp hfind item hmem)
  | some other =>
      have hother := List.find?_some hfind
      rw [honly other (List.mem_of_find?_eq_some hfind) hother]

theorem Field.Leads.of_unique (hf : f ∈ fields)
    (h : ∀ g ∈ fields, Line.contains f.marker line = true → Line.contains g.marker line = true →
      g = f) : f.Leads line := by
  intro hmarker
  exact find?_eq_some_of_unique hf hmarker fun g hg => h g hg hmarker

theorem fill_of_leads (hleads : f.Leads line) (hmarker : Line.contains f.marker line = true)
    (hempty : f.get d = "") : fill d line = f.set (f.read line) d := by
  obtain ⟨-, before, after, hsplit, hbefore⟩ := List.find?_eq_some_iff_append.mp (hleads hmarker)
  have hfind : fields.find? (fun g => (g.get d).isEmpty && Line.contains g.marker line) =
      some f := by
    rw [List.find?_eq_some_iff_append]
    refine ⟨by simp [hempty, hmarker], before, after, hsplit, ?_⟩
    intro g hg
    have hnot : Line.contains g.marker line = false := by simpa using hbefore g hg
    simp [hnot]
  rw [fill, hfind]

theorem get_fill (hf : f ∈ fields) (hleads : f.Leads line) (d : Device) :
    f.get (fill d line) =
      if f.get d = "" ∧ Line.contains f.marker line = true then f.read line else f.get d := by
  by_cases hempty : f.get d = ""
  · by_cases hmarker : Line.contains f.marker line = true
    · rw [if_pos ⟨hempty, hmarker⟩, fill_of_leads hleads hmarker hempty, get_set hf]
    · rw [if_neg fun h => hmarker h.2]
      exact get_fill_of_not_contains hf d (Bool.eq_false_iff.mpr hmarker)
  · rw [if_neg fun h => hempty h.1]
    exact get_fill_of_ne hf hempty line

/-- What lines have to say of a field: the first value that is not empty. -/
def Field.valueIn (f : Field) (lines : List String) : String :=
  (((lines.filter (Line.contains f.marker)).map f.read).find? (· ≠ "")).getD ""

theorem valueIn_cons (f : Field) (line : String) (rest : List String) :
    f.valueIn (line :: rest) =
      if Line.contains f.marker line = true ∧ f.read line ≠ "" then f.read line
      else f.valueIn rest := by
  by_cases hmarker : Line.contains f.marker line = true
  · by_cases hvalue : f.read line = "" <;> simp [Field.valueIn, hmarker, hvalue]
  · simp [Field.valueIn, hmarker]

theorem get_foldl_fill (hf : f ∈ fields) (hleads : ∀ line ∈ lines, f.Leads line) (d : Device) :
    f.get (lines.foldl fill d) = if f.get d = "" then f.valueIn lines else f.get d := by
  induction lines generalizing d with
  | nil => by_cases hempty : f.get d = "" <;> simp [Field.valueIn, hempty]
  | cons line rest ih =>
      rw [List.forall_mem_cons] at hleads
      rw [List.foldl_cons, ih hleads.2, get_fill hf hleads.1, valueIn_cons]
      -- An open field stays open over a line without a value, and then the rest decides.
      by_cases hempty : f.get d = ""
      · by_cases hmarker : Line.contains f.marker line = true
        · by_cases hvalue : f.read line = "" <;> simp [hempty, hmarker, hvalue]
        · simp [hempty, hmarker]
      · simp [hempty]

theorem name_foldl_fill (lines : List String) (d : Device) :
    (lines.foldl fill d).name = d.name := by
  induction lines generalizing d with
  | nil => rfl
  | cons line rest ih => rw [List.foldl_cons, ih, name_fill]

/-! ## The first value -/

theorem exists_line_of_valueIn (hne : f.valueIn lines ≠ "") :
    ∃ line ∈ lines, Line.contains f.marker line = true ∧ f.read line = f.valueIn lines := by
  unfold Field.valueIn at hne ⊢
  cases hfind : ((lines.filter (Line.contains f.marker)).map f.read).find? (· ≠ "") with
  | none =>
      rw [hfind] at hne
      exact absurd rfl hne
  | some value =>
      obtain ⟨line, hline, hread⟩ := List.mem_map.mp (List.mem_of_find?_eq_some hfind)
      obtain ⟨hmem, hmarker⟩ := List.mem_filter.mp hline
      exact ⟨line, hmem, hmarker, hread⟩

theorem valueIn_eq_empty_iff :
    f.valueIn lines = "" ↔
      ∀ line ∈ lines, Line.contains f.marker line = true → f.read line = "" := by
  induction lines with
  | nil => simp [Field.valueIn]
  | cons line rest ih =>
      rw [valueIn_cons, List.forall_mem_cons, ← ih]
      by_cases hmarker : Line.contains f.marker line = true
      · by_cases hvalue : f.read line = "" <;> simp [hmarker, hvalue]
      · simp [hmarker]

/-- Lines with one value give that value, if one of them is there or the value is empty. -/
theorem valueIn_eq_of_forall {value : String}
    (hall : ∀ line ∈ lines, Line.contains f.marker line = true → f.read line = value)
    (hsome : value ≠ "" → ∃ line ∈ lines, Line.contains f.marker line = true) :
    f.valueIn lines = value := by
  by_cases hempty : f.valueIn lines = ""
  · by_cases hvalue : value = ""
    · rw [hempty, hvalue]
    · obtain ⟨line, hmem, hmarker⟩ := hsome hvalue
      have hread := valueIn_eq_empty_iff.mp hempty line hmem hmarker
      rw [hempty, ← hread, hall line hmem hmarker]
  · obtain ⟨line, hmem, hmarker, hread⟩ := exists_line_of_valueIn hempty
    rw [← hread, hall line hmem hmarker]

/-- The first line with the marker counts, unless its value is empty. -/
theorem valueIn_of_find? (hfind : lines.find? (Line.contains f.marker) = some line)
    (hne : f.read line ≠ "") : f.valueIn lines = f.read line := by
  induction lines with
  | nil => simp at hfind
  | cons first rest ih =>
      rw [valueIn_cons]
      by_cases hmarker : Line.contains f.marker first = true
      · rw [List.find?_cons_of_pos hmarker, Option.some_inj] at hfind
        rw [if_pos ⟨hmarker, hfind ▸ hne⟩, hfind]
      · rw [List.find?_cons_of_neg hmarker] at hfind
        rw [if_neg fun h => hmarker h.1, ih hfind]

end CecGateway.Reply
