import CecGateway.Json.Printer
import CecGateway.Proofs.Json.Members
import CecGateway.Proofs.Json.Spelling

/-!
# What is printed spells the value

Printing a value without floats gives a text that spells it, once the members of its objects are in
the order of their keys. The values that have a spelling are those without floats whose members are
in this order already, one for each key (`plain_iff_spelled`).
-/

namespace CecGateway.Json

/-- Free of floats, with no more than `n` containers around any part. -/
inductive Floatless : Nat → Json → Prop
  | null {n : Nat} : Floatless n .null
  | bool {n : Nat} (b : Bool) : Floatless n (.bool b)
  | int {n : Nat} {i : Int} (hbits : Is64Bit i) : Floatless n (.int i)
  | str {n : Nat} (s : String) : Floatless n (.str s)
  | arr {n : Nat} {items : List Json} (hitems : ∀ v ∈ items, Floatless n v) :
      Floatless (n + 1) (.arr items)
  | obj {n : Nat} {members : List (String × Json)} (hmembers : ∀ m ∈ members, Floatless n m.2) :
      Floatless (n + 1) (.obj members)

theorem Floatless.mono {m n : Nat} {v : Json} (h : Floatless m v) (hle : m ≤ n) :
    Floatless n v := by
  induction h generalizing n with
  | null => exact .null
  | bool b => exact .bool b
  | int hbits => exact .int hbits
  | str s => exact .str s
  | arr _ ih =>
      obtain ⟨k, rfl⟩ := Nat.exists_eq_add_of_lt hle
      exact .arr fun v hv => ih v hv (by omega)
  | obj _ ih =>
      obtain ⟨k, rfl⟩ := Nat.exists_eq_add_of_lt hle
      exact .obj fun m hm => ih m hm (by omega)

/-- As a value is that has been read. -/
structure Plain (n : Nat) (v : Json) : Prop where
  floatless : Floatless n v
  sorted_eq : v.sorted = v

/-! ## Strings -/

theorem isHexDigit_hexDigit {n : Nat} (hn : n < 16) : IsHexDigit n (hexDigit n) := by
  have htable : ∀ n < 16, "0123456789abcdef".toList[n]? = some (hexDigit n) := by decide
  exact .inl (htable n hn)

theorem spellsUnit_of_lt {n : Nat} (hn : n < 0x100) :
    SpellsUnit n ['0', '0', hexDigit (n / 16), hexDigit (n % 16)] := by
  have hzero : IsHexDigit 0 '0' := .inl rfl
  have hunit := SpellsUnit.mk hzero hzero (isHexDigit_hexDigit (show n / 16 < 16 by omega))
    (isHexDigit_hexDigit (show n % 16 < 16 by omega))
  have hsum : 0x1000 * 0 + 0x100 * 0 + 0x10 * (n / 16) + n % 16 = n := by omega
  rwa [hsum] at hunit

theorem spells_escape (c : Char) : SpellsChar c (escape c) := by
  have hcode {n : Nat} (hn : c.toNat = n) : c = Char.ofNat n := by rw [← hn, Char.ofNat_toNat]
  unfold escape
  split_ifs with hquote hbackslash hnewline hreturn htab hback hfeed hcontrol
  · exact .short (by rw [hquote]; decide)
  · exact .short (by rw [hbackslash]; decide)
  · exact .short (by rw [hnewline]; decide)
  · exact .short (by rw [hreturn]; decide)
  · exact .short (by rw [htab]; decide)
  · exact .short (by rw [hcode hback]; decide)
  · exact .short (by rw [hcode hfeed]; decide)
  · exact .unit (spellsUnit_of_lt (by omega))
  · exact .plain (Nat.le_of_not_lt hcontrol) hquote hbackslash

theorem spells_quote {n : Nat} (s : String) : Spells n (.str s) (quote s) := by
  have htext : ∀ text : List Char, SpellsText text (text.flatMap escape) := by
    intro text
    induction text with
    | nil => exact .nil
    | cons c text ih => exact .cons (spells_escape c) ih
  exact .str (htext s.toList)

/-! ## Values -/

section

variable {n : Nat}

theorem spells_items {items printed : List Json}
    (hitems : List.Forall₂ (fun v item => Spells n v item.chars) items printed)
    (hne : items ≠ []) : SpellsItems n items (commaSeparated (itemTexts printed)) := by
  induction hitems with
  | nil => contradiction
  | cons hv hrest ih =>
      cases hrest with
      | nil => exact .last hv
      | cons hnext hrest => exact .cons hv (ih (List.cons_ne_nil _ _))

theorem spells_members {members printed : List (String × Json)}
    (hmembers : List.Forall₂ (fun m p => m.1 = p.1 ∧ Spells n m.2 p.2.chars) members printed)
    (hne : members ≠ []) : SpellsMembers n members (commaSeparated (memberTexts printed)) := by
  induction hmembers with
  | nil => contradiction
  | @cons m p _ _ hm hrest ih =>
      obtain ⟨hkey, hvalue⟩ := hm
      have hkey : Spells n (.str m.1) (quote p.1) := hkey ▸ spells_quote m.1
      cases hrest with
      | nil => exact .last hkey hvalue
      | cons hnext hrest => exact .cons hkey hvalue (ih (List.cons_ne_nil _ _))

theorem Floatless.spells {v : Json} (h : Floatless n v) : Spells n v.sorted v.chars := by
  induction h with
  | null => exact .null
  | bool b =>
      cases b with
      | false => exact .false
      | true => exact .true
  | int hbits => exact .int hbits
  | str s => exact spells_quote s
  | @arr n items _ ih =>
      cases items with
      | nil => exact .emptyArr (List.nil_subset _)
      | cons v rest =>
          rw [sorted, sortedItems_eq_map]
          exact .arr (spells_items (List.forall₂_map_left_iff.mpr (List.forall₂_same.mpr ih))
            (List.cons_ne_nil _ _))
  | @obj n members _ ih =>
      cases members with
      | nil => exact .emptyObj (List.nil_subset _)
      | cons m rest =>
          rw [sorted, sortedMembers_eq_map]
          exact .obj (spells_members (List.forall₂_map_left_iff.mpr (List.forall₂_same.mpr
            fun m hm => ⟨rfl, ih m hm⟩)) (List.cons_ne_nil _ _))

theorem Plain.spells {v : Json} (h : Plain n v) : Spells n v v.chars := by
  have hspells := h.floatless.spells
  rwa [h.sorted_eq] at hspells

theorem plain_str (s : String) : Plain n (.str s) := ⟨.str s, rfl⟩

theorem plain_arr {items : List Json} (hitems : ∀ v ∈ items, Plain n v) :
    Plain (n + 1) (.arr items) where
  floatless := .arr fun v hv => (hitems v hv).floatless
  sorted_eq := sorted_arr_of_sorted fun v hv => (hitems v hv).sorted_eq

/-- Whatever the order in which its members are written. -/
theorem plain_ofMembers {members : List (String × Json)} (hmembers : ∀ m ∈ members, Plain n m.2) :
    Plain (n + 1) (ofMembers members) where
  floatless := .obj fun m hm => (hmembers m ((inOrder_foldl_insert members).2 hm)).floatless
  sorted_eq := sorted_ofMembers fun m hm => (hmembers m hm).sorted_eq

end

mutual

theorem Spells.plain {n : Nat} {v : Json} {w : List Char} : Spells n v w → Plain n v
  | .null => ⟨.null, rfl⟩
  | .true => ⟨.bool true, rfl⟩
  | .false => ⟨.bool false, rfl⟩
  | .int hbits => ⟨.int hbits, rfl⟩
  | .str _ => ⟨.str _, rfl⟩
  | .emptyArr _ => plain_arr (List.forall_mem_nil _)
  | .arr hitems => plain_arr hitems.plain
  | .emptyObj _ => plain_ofMembers (List.forall_mem_nil _)
  | .obj hmembers => plain_ofMembers hmembers.plain
  | .blankBefore _ hw | .blankAfter _ hw => hw.plain

theorem SpellsItems.plain {n : Nat} {items : List Json} {w : List Char} :
    SpellsItems n items w → ∀ v ∈ items, Plain n v
  | .last hw => List.forall_mem_singleton.mpr hw.plain
  | .cons hw hrest => List.forall_mem_cons.mpr ⟨hw.plain, hrest.plain⟩

theorem SpellsMembers.plain {n : Nat} {members : List (String × Json)} {w : List Char} :
    SpellsMembers n members w → ∀ m ∈ members, Plain n m.2
  | .last _ hw => List.forall_mem_singleton.mpr hw.plain
  | .cons _ hw hrest => List.forall_mem_cons.mpr ⟨hw.plain, hrest.plain⟩

end

theorem plain_iff_spelled {n : Nat} {v : Json} : Plain n v ↔ ∃ w, Spells n v w :=
  ⟨fun h => ⟨_, h.spells⟩, fun ⟨_, h⟩ => h.plain⟩

end CecGateway.Json
