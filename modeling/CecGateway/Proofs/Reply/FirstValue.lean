import CecGateway.Proofs.Reply.Locality

/-!
# The first value wins

Where the lines of a record have one marker each, a field is the first value on the lines with its
marker that is not empty (`first_value_wins`). A line without a value does not count as the first:
it leaves the field open for the next line with the marker (`empty_value_does_not_win`).
-/

namespace CecGateway.Reply

/-- A line with the marker of at most one field. -/
def IsSingle (line : String) : Prop := fields.countP (fun f => Line.contains f.marker line) ≤ 1

instance (line : String) : Decidable (IsSingle line) := inferInstanceAs (Decidable (_ ≤ _))

theorem IsSingle.leads {f : Field} {line : String} (h : IsSingle line) (hf : f ∈ fields) :
    f.Leads line := by
  apply Field.Leads.of_unique hf
  intro g hg hf' hg'
  rw [IsSingle, List.countP_eq_length_filter] at h
  have hmem : f ∈ fields.filter fun f => Line.contains f.marker line :=
    List.mem_filter.mpr ⟨hf, hf'⟩
  have hother : g ∈ fields.filter fun f => Line.contains f.marker line :=
    List.mem_filter.mpr ⟨hg, hg'⟩
  match hmarked : fields.filter fun f => Line.contains f.marker line with
  | [] => simp [hmarked] at hmem
  | [only] =>
      rw [hmarked, List.mem_singleton] at hmem hother
      rw [hmem, hother]
  | _ :: _ :: _ => simp [hmarked] at h

/-- A field of a record is the first value that is not empty on a line with its marker. So it is
the value of the first such line if that has one, and it is empty if there is no such line. -/
theorem first_value_wins (before : List String) (header : String) (body after : List String)
    (hrecord : IsRecord header body after) (hsingle : ∀ line ∈ body, IsSingle line) :
    ∃ d, (devices (before ++ header :: (body ++ after)))[before.countP startsRecord]? = some d ∧
      ∀ f ∈ fields, f.get d = f.valueIn body ∧
        (∀ line, body.find? (Line.contains f.marker) = some line → f.read line ≠ "" →
          f.get d = f.read line) ∧
        ((∀ line ∈ body, Line.contains f.marker line = false) → f.get d = "") := by
  refine ⟨_, hrecord.getElem?_devices before, ?_⟩
  intro f hf
  have hleads : ∀ line ∈ body, f.Leads line := fun line hline => (hsingle line hline).leads hf
  rw [Section.get_device hf hleads]
  refine ⟨rfl, fun line => valueIn_of_find?, ?_⟩
  intro hnone
  rw [valueIn_eq_empty_iff]
  intro line hline hmarker
  rw [hnone line hline] at hmarker
  contradiction

/-- The record of the second of three devices, with a vendor that is given twice. -/
theorem twice_given_value_wins :
    let body := ["address: 1.0.0.0", "vendor:", "osd string: 'Bob's TV'", "vendor: LG", "noise"]
    let lines := "device: TV" :: "vendor: Sony" :: "device: Player" :: (body ++ ["device: Deck"])
    (∀ line ∈ body, IsSingle line) ∧ ∃ d, (devices lines)[1]? = some d ∧
      ∀ f ∈ fields, f.get d = f.valueIn body := by
  intro body lines
  have hsingle : ∀ line ∈ body, IsSingle line := by decide
  have hrecord : IsRecord "device: Player" body ["device: Deck"] :=
    ⟨by decide, by decide, by decide⟩
  obtain ⟨d, hd, hfields⟩ :=
    first_value_wins ["device: TV", "vendor: Sony"] "device: Player" body _ hrecord hsingle
  exact ⟨hsingle, d, hd, fun f hf => (hfields f hf).1⟩

/-- The first line with the marker does not win if it gives no value. -/
theorem empty_value_does_not_win :
    ¬∀ header body, IsRecord header body [] → (∀ line ∈ body, IsSingle line) →
      ∃ d, devices (header :: body) = [d] ∧ ∀ f ∈ fields,
        f.get d = ((body.find? (Line.contains f.marker)).map f.read).getD "" := by
  intro hfirst
  have hrecord : IsRecord "device: TV" ["vendor:", "vendor: LG"] [] :=
    ⟨by decide, by decide, by simp⟩
  obtain ⟨d, hd, hfields⟩ := hfirst _ _ hrecord (by decide)
  obtain rfl : { name := "TV", vendor := "LG" } = d := List.head_eq_of_cons_eq hd
  have hvendor := hfields (fields.get ⟨2, by decide⟩) (List.get_mem _ _)
  exact absurd hvendor (by decide)

end CecGateway.Reply
