import CecGateway.Json.Value
import Mathlib.Data.List.Induction
import Mathlib.Data.List.Perm.Basic

/-!
# Members of objects

What is found under a key, whatever the order in which the members were written, objects whose
members are in the order of their keys, and putting the members of a value into that order.
-/

namespace CecGateway.Json

/-! ## Keys -/

theorem keyLess_iff {a b : List Char} : keyLess a b = true ↔ a < b := by
  induction a generalizing b with
  | nil => cases b <;> simp [keyLess]
  | cons c a ih =>
      cases b with
      | nil => simp [keyLess]
      | cons d b =>
          have hchar : c.toNat < d.toNat ↔ c < d := Iff.rfl
          simp only [keyLess, Bool.or_eq_true, Bool.and_eq_true, decide_eq_true_eq, beq_iff_eq, ih,
            hchar, List.cons_lt_cons_iff, Char.toNat_inj]

/-! ## Members in any order -/

section

variable {members others : List (String × Json)} {key : String} {value : Json}

theorem lookup_cons_eq (m : String × Json) (rest : List (String × Json)) (key : String) :
    (m :: rest).lookup key = if key = m.1 then some m.2 else rest.lookup key := by
  rw [List.lookup_cons]
  by_cases hkey : key = m.1
  · simp [hkey]
  · simp [beq_false_of_ne hkey, hkey]

theorem lookup_insert (key : String) (value : Json) (members : List (String × Json))
    (other : String) :
    (insert key value members).lookup other =
      if other = key then some value else members.lookup other := by
  induction members with
  | nil => rw [insert, lookup_cons_eq]
  | cons m rest ih =>
      obtain ⟨k, v⟩ := m
      unfold insert
      split
      · rename_i hk
        simp only [lookup_cons_eq, hk]
        split <;> rfl
      · rename_i hk
        split
        · rw [lookup_cons_eq]
        · simp only [lookup_cons_eq, ih]
          by_cases hother : other = k
          · have hne : other ≠ key := fun hkey => hk (hother.symm.trans hkey)
            simp [hother, hk]
          · simp [hother]

theorem lookup_foldl_insert (members sorted : List (String × Json)) (key : String) :
    (members.foldl (fun sorted m => insert m.1 m.2 sorted) sorted).lookup key =
      (members.reverse.lookup key).or (sorted.lookup key) := by
  induction members generalizing sorted with
  | nil => simp
  | cons m rest ih =>
      rw [List.foldl_cons, ih, lookup_insert, List.reverse_cons, List.lookup_append,
        Option.or_assoc, lookup_cons_eq]
      by_cases hkey : key = m.1 <;> simp [hkey]

/-- Where no key occurs twice, what is found is what is there. -/
theorem lookup_eq_some_iff_mem (hnodup : (members.map (·.1)).Nodup) :
    members.lookup key = some value ↔ (key, value) ∈ members := by
  induction members with
  | nil => simp
  | cons m rest ih =>
      obtain ⟨k, v⟩ := m
      obtain ⟨hfirst, hrest⟩ := List.nodup_cons.mp hnodup
      rw [lookup_cons_eq]
      by_cases hkey : key = k
      · subst hkey
        have hnot : (key, value) ∉ rest := fun hmem =>
          hfirst (List.mem_map.mpr ⟨_, hmem, rfl⟩)
        simp [hnot, eq_comm]
      · simp [hkey, ih hrest]

theorem lookup_of_perm (hperm : members.Perm others) (hnodup : (others.map (·.1)).Nodup)
    (key : String) : members.lookup key = others.lookup key := by
  have hmembers : (members.map (·.1)).Nodup := (hperm.map _).nodup_iff.mpr hnodup
  ext value
  rw [lookup_eq_some_iff_mem hmembers, lookup_eq_some_iff_mem hnodup]
  exact hperm.mem_iff

theorem lookup_ofMembers (hperm : members.Perm others) (hnodup : (others.map (·.1)).Nodup)
    (key : String) :
    (members.foldl (fun sorted m => insert m.1 m.2 sorted) []).lookup key = others.lookup key := by
  rw [lookup_foldl_insert, List.lookup_nil, Option.or_none]
  exact lookup_of_perm ((List.reverse_perm members).trans hperm) hnodup key

theorem member?_ofMembers (hperm : members.Perm others) (hnodup : (others.map (·.1)).Nodup)
    (key : String) : (ofMembers members).member? key = others.lookup key :=
  lookup_ofMembers hperm hnodup key

theorem fields?_ofMembers (hperm : members.Perm others) (hnodup : (others.map (·.1)).Nodup)
    (names : List String) :
    (ofMembers members).fields? names = some fun name => others.lookup name :=
  congrArg some (funext (lookup_ofMembers hperm hnodup))

end

/-! ## Members in the order of their keys -/

section

variable {members : List (String × Json)} {key : String} {value : Json}

def InOrder (members : List (String × Json)) : Prop :=
  members.Pairwise fun m other => m.1.toList < other.1.toList

theorem insert_behind (hlast : ∀ m ∈ members, m.1.toList < key.toList) :
    insert key value members = members ++ [(key, value)] := by
  induction members with
  | nil => rfl
  | cons m rest ih =>
      obtain ⟨hfirst, hrest⟩ := List.forall_mem_cons.mp hlast
      have hne : m.1 ≠ key := by
        rintro rfl
        exact List.lt_irrefl _ hfirst
      have hnotLess : keyLess key.toList m.1.toList = false := by
        rw [Bool.eq_false_iff, ne_eq, keyLess_iff]
        exact List.lt_asymm hfirst
      simp [insert, hne, hnotLess, ih hrest]

theorem ofMembers_of_inOrder (hinOrder : InOrder members) : ofMembers members = .obj members := by
  have hfold : ∀ sorted, (∀ m ∈ sorted, ∀ other ∈ members, m.1.toList < other.1.toList) →
      members.foldl (fun sorted m => insert m.1 m.2 sorted) sorted = sorted ++ members := by
    induction members with
    | nil => simp
    | cons m rest ih =>
        obtain ⟨hfirst, hrest⟩ := List.pairwise_cons.mp hinOrder
        intro sorted hsorted
        have hm : ∀ n ∈ sorted, n.1.toList < m.1.toList := fun n hn =>
          hsorted n hn m List.mem_cons_self
        rw [List.foldl_cons, insert_behind hm, ih hrest]
        · simp
        · intro n hn other hother
          obtain hn | rfl := List.mem_append.mp hn |>.imp id List.mem_singleton.mp
          · exact hsorted n hn other (List.mem_cons_of_mem _ hother)
          · exact hfirst other hother
  exact congrArg Json.obj (hfold [] (by simp))

theorem mem_insert {m : String × Json} (hmem : m ∈ insert key value members) :
    m = (key, value) ∨ m ∈ members := by
  induction members with
  | nil => simpa [insert] using hmem
  | cons first rest ih =>
      unfold insert at hmem
      split_ifs at hmem
      · exact (List.mem_cons.mp hmem).imp id (List.mem_cons_of_mem _)
      · exact List.mem_cons.mp hmem
      · obtain rfl | hrest := List.mem_cons.mp hmem
        · exact .inr List.mem_cons_self
        · exact (ih hrest).imp id (List.mem_cons_of_mem _)

theorem InOrder.insert (hinOrder : InOrder members) (key : String) (value : Json) :
    InOrder (insert key value members) := by
  induction members with
  | nil => exact List.pairwise_singleton _ _
  | cons first rest ih =>
      obtain ⟨hfirst, hrest⟩ := List.pairwise_cons.mp hinOrder
      unfold Json.insert
      split_ifs with hsame hless
      · exact List.pairwise_cons.mpr ⟨fun m hm => hsame ▸ hfirst m hm, hrest⟩
      · rw [keyLess_iff] at hless
        refine List.pairwise_cons.mpr ⟨fun m hm => ?_, hinOrder⟩
        obtain rfl | hm := List.mem_cons.mp hm
        · exact hless
        · exact List.lt_trans hless (hfirst m hm)
      · rw [keyLess_iff, List.not_lt] at hless
        refine List.pairwise_cons.mpr ⟨fun m hm => ?_, ih hrest⟩
        obtain rfl | hm := mem_insert hm
        · by_contra hnot
          exact hsame (String.toList_inj.mp (List.le_antisymm hless (List.not_lt.mp hnot)))
        · exact hfirst m hm

/-- The members of an object that has been read are in order, and they are among those written. -/
theorem inOrder_foldl_insert (members : List (String × Json)) :
    InOrder (members.foldl (fun sorted m => insert m.1 m.2 sorted) []) ∧
      members.foldl (fun sorted m => insert m.1 m.2 sorted) [] ⊆ members := by
  induction members using List.reverseRecOn with
  | nil => exact ⟨List.Pairwise.nil, List.nil_subset _⟩
  | append_singleton members m ih =>
      rw [List.foldl_append, List.foldl_cons, List.foldl_nil]
      refine ⟨ih.1.insert m.1 m.2, fun other hother => ?_⟩
      obtain rfl | hmem := mem_insert hother
      · simp
      · exact List.mem_append_left _ (ih.2 hmem)

end

/-! ## Values with all their members in order -/

mutual

/-- The same value, with the members of its objects in the order of their keys, at every depth. -/
def sorted : Json → Json
  | .arr items => .arr (sortedItems items)
  | .obj members => ofMembers (sortedMembers members)
  | v => v

def sortedItems : List Json → List Json
  | [] => []
  | item :: rest => sorted item :: sortedItems rest

def sortedMembers : List (String × Json) → List (String × Json)
  | [] => []
  | (key, value) :: rest => (key, sorted value) :: sortedMembers rest

end

theorem sortedItems_eq_map (items : List Json) : sortedItems items = items.map sorted := by
  induction items with
  | nil => rfl
  | cons item rest ih => rw [sortedItems, ih, List.map_cons]

theorem sortedMembers_eq_map (members : List (String × Json)) :
    sortedMembers members = members.map fun m => (m.1, m.2.sorted) := by
  induction members with
  | nil => rfl
  | cons m rest ih => rw [sortedMembers, ih, List.map_cons]

section

variable {members : List (String × Json)}

theorem sorted_arr_of_sorted {items : List Json} (hitems : ∀ v ∈ items, v.sorted = v) :
    (Json.arr items).sorted = .arr items := by
  rw [sorted, sortedItems_eq_map, List.map_congr_left hitems, List.map_id']

theorem sorted_ofMembers (hmembers : ∀ m ∈ members, m.2.sorted = m.2) :
    (ofMembers members).sorted = ofMembers members := by
  obtain ⟨hinOrder, hsubset⟩ := inOrder_foldl_insert members
  unfold ofMembers
  generalize members.foldl (fun sorted m => insert m.1 m.2 sorted) [] = kept at hinOrder hsubset
  have hkept : ∀ m ∈ kept, (m.1, m.2.sorted) = m := fun m hm => by rw [hmembers m (hsubset hm)]
  rw [sorted, sortedMembers_eq_map, List.map_congr_left hkept, List.map_id',
    ofMembers_of_inOrder hinOrder]

theorem lookup_sortedMembers (members : List (String × Json)) (key : String) :
    (sortedMembers members).lookup key = (members.lookup key).map sorted := by
  induction members with
  | nil => rfl
  | cons m rest ih =>
      rw [sortedMembers, lookup_cons_eq, lookup_cons_eq, ih]
      split <;> rfl

theorem keys_sortedMembers (members : List (String × Json)) :
    (sortedMembers members).map (·.1) = members.map (·.1) := by
  rw [sortedMembers_eq_map, List.map_map]
  rfl

/-- What is found in the ordered object is what was there, with its own members in order. -/
theorem member?_sorted (hnodup : (members.map (·.1)).Nodup) (key : String) :
    (Json.obj members).sorted.member? key = (members.lookup key).map sorted := by
  rw [sorted, member?_ofMembers (.refl _) (by rwa [keys_sortedMembers]), lookup_sortedMembers]

end

end CecGateway.Json
