import CecGateway.Text.Marker
import Mathlib.Data.List.Infix

/-!
# Printed values

A line that is printed with a label and a value can be read back. The label and the value are held
apart by a colon, so that a marker without a colon occurs on the line only if it occurs in the one
or in the other (`contains_print`).
-/

namespace CecGateway.Text

variable {marker label line : List Char} {c : Char}

/-! ## Occurrences -/

theorem occurs_iff_isInfix (marker line : List Char) :
    occurs marker line = true ↔ marker <:+: line := by
  unfold occurs
  induction line with
  | nil => cases marker <;> simp [after?]
  | cons d rest ih =>
      rw [List.infix_cons_iff, ← ih, ← List.isPrefixOf_iff_prefix, after?]
      by_cases hstarts : marker.isPrefixOf (d :: rest) = true
      · simp [hstarts]
      · simp [hstarts]

theorem prefix_of_prefix_append_cons {first rest : List Char} (hc : c ∉ marker)
    (h : marker <+: first ++ c :: rest) : marker <+: first := by
  obtain ⟨tail, htail⟩ := h
  obtain ⟨middle, hfirst, -⟩ | ⟨middle, hmarker, hmiddle⟩ := List.append_eq_append_iff.mp htail
  · exact ⟨middle, hfirst.symm⟩
  · cases middle with
    | nil => exact ⟨[], by rw [hmarker, List.append_nil, List.append_nil]⟩
    | cons d middle =>
        obtain rfl : c = d := (List.cons.inj hmiddle).1
        exact absurd (by simp [hmarker]) hc

theorem isInfix_append_cons_iff {first rest : List Char} (hc : c ∉ marker) :
    marker <:+: first ++ c :: rest ↔ marker <:+: first ∨ marker <:+: rest := by
  constructor
  · intro h
    induction first with
    | nil =>
        obtain hprefix | hrest := List.infix_cons_iff.mp h
        · have hfirst : marker <+: [] := prefix_of_prefix_append_cons hc hprefix
          exact .inl hfirst.isInfix
        · exact .inr hrest
    | cons d first ih =>
        obtain hprefix | hrest := List.infix_cons_iff.mp h
        · have hfirst : marker <+: d :: first := prefix_of_prefix_append_cons hc hprefix
          exact .inl hfirst.isInfix
        · exact (ih hrest).imp_left List.infix_cons
  · rintro (h | h)
    · exact h.trans (List.prefix_append _ _).isInfix
    · exact h.trans ((List.suffix_cons c rest).trans (List.suffix_append _ _)).isInfix

/-- A marker does not reach across a character that it does not have. -/
theorem occurs_append_cons {first rest : List Char} (hc : c ∉ marker) :
    occurs marker (first ++ c :: rest) = (occurs marker first || occurs marker rest) := by
  rw [Bool.eq_iff_iff, Bool.or_eq_true, occurs_iff_isInfix, occurs_iff_isInfix, occurs_iff_isInfix]
  exact isInfix_append_cons_iff hc

theorem occurs_cons_of_head? (h : marker.head? ∉ [none, some c]) (line : List Char) :
    occurs marker (c :: line) = occurs marker line := by
  have hstarts : ¬marker.isPrefixOf (c :: line) = true := by
    cases marker with
    | nil => simp at h
    | cons d rest =>
        intro hprefix
        have hhead := (List.cons_prefix_cons.mp (List.isPrefixOf_iff_prefix.mp hprefix)).1
        simp [hhead] at h
  rw [occurs, after?, if_neg hstarts, occurs]

/-! ## Values -/

theorem after?_singleton (hc : c ∉ label) (rest : List Char) :
    after? [c] (label ++ c :: rest) = some rest := by
  induction label with
  | nil => simp [after?]
  | cons d label ih =>
      rw [List.mem_cons, not_or] at hc
      rw [List.cons_append, after?, if_neg (by simp [hc.1]), ih hc.2]

theorem colonValue_append (hcolon : ':' ∉ label) (value : List Char) :
    colonValue (label ++ ':' :: ' ' :: value) = value := by
  rw [colonValue, after?_singleton hcolon]
  rfl

theorem quotedValue_append (hquote : '\'' ∉ label) (value : List Char) :
    quotedValue (label ++ '\'' :: (value ++ ['\''])) = value := by
  have hlabel : ∀ d ∈ label, decide (d ≠ '\'') = true := by
    intro d hd
    exact decide_eq_true fun heq => hquote (heq ▸ hd)
  rw [quotedValue, quoted?, List.dropWhile_append_of_pos hlabel]
  simp

/-- Neither end of the text is blank. -/
def IsUnpadded (text : List Char) : Prop :=
  text.head?.any isBlank = false ∧ text.getLast?.any isBlank = false

instance (text : List Char) : Decidable (IsUnpadded text) := inferInstanceAs (Decidable (_ ∧ _))

theorem trimStart_of_head? {text : List Char} (h : text.head?.any isBlank = false) :
    trimStart text = text := by
  cases text with
  | nil => rfl
  | cons c rest => exact List.dropWhile_cons_of_neg (Bool.eq_false_iff.mp h)

theorem trim_of_isUnpadded {text : List Char} (h : IsUnpadded text) : trim text = text := by
  have hreverse : trimStart text.reverse = text.reverse := by
    apply trimStart_of_head?
    rw [List.head?_reverse]
    exact h.2
  rw [trim, trimStart_of_head? h.1]
  change (trimStart text.reverse).reverse = text
  rw [hreverse, List.reverse_reverse]

theorem valueAfter_of_after? {value : List Char} (hvalue : IsUnpadded value)
    (h : after? marker line = some (':' :: ' ' :: value)) : valueAfter marker line = value := by
  rw [valueAfter, h]
  exact trim_of_isUnpadded hvalue

end CecGateway.Text

namespace CecGateway.Line

/-- A line with a value under a label, in quotes or without. -/
def print (quoted : Bool) (label value : String) : String :=
  if quoted then label ++ ": '" ++ value ++ "'" else label ++ ": " ++ value

theorem toList_print_false (label text : String) :
    (print false label text).toList = label.toList ++ ':' :: ' ' :: text.toList := by
  simp [print]

theorem toList_print_true (label text : String) :
    (print true label text).toList =
      (label.toList ++ [':', ' ']) ++ '\'' :: (text.toList ++ ['\'']) := by
  simp [print]

def read (quoted : Bool) (line : String) : String :=
  if quoted then quotedValue line else value line

/-- The word is not empty, and on a printed line none of it is what comes between the label and the
value. -/
def IsKeyword (word : String) : Prop :=
  word.toList.head? ∉ [none, some ' '] ∧ ':' ∉ word.toList ∧ '\'' ∉ word.toList

instance (word : String) : Decidable (IsKeyword word) :=
  inferInstanceAs (Decidable (_ ∧ _ ∧ _))

theorem contains_self (word : String) : contains word word = true :=
  (Text.occurs_iff_isInfix _ _).mpr (List.infix_refl _)

theorem contains_print {word : String} (h : IsKeyword word) (quoted : Bool) (label value : String) :
    contains word (print quoted label value) = (contains word label || contains word value) := by
  obtain ⟨hhead, hcolon, hquote⟩ := h
  have hnil : Text.occurs word.toList [] = false := by
    rw [Bool.eq_false_iff, ne_eq, Text.occurs_iff_isInfix, List.infix_nil]
    intro hempty
    simp [hempty] at hhead
  unfold contains print
  cases quoted with
  | false =>
      calc Text.occurs word.toList (label ++ ": " ++ value).toList
          = Text.occurs word.toList (label.toList ++ ':' :: ' ' :: value.toList) := by simp
        _ = (Text.occurs word.toList label.toList || Text.occurs word.toList value.toList) := by
            rw [Text.occurs_append_cons hcolon, Text.occurs_cons_of_head? hhead]
  | true =>
      -- The quotes cut what follows the label in three, and the outer two parts are empty.
      calc Text.occurs word.toList (label ++ ": '" ++ value ++ "'").toList
          = Text.occurs word.toList
              (label.toList ++ ':' :: ' ' :: ([] ++ '\'' :: (value.toList ++ '\'' :: []))) := by
            simp
        _ = (Text.occurs word.toList label.toList || Text.occurs word.toList value.toList) := by
            rw [Text.occurs_append_cons hcolon, Text.occurs_cons_of_head? hhead,
              Text.occurs_append_cons hquote, Text.occurs_append_cons hquote, hnil, Bool.false_or,
              Bool.or_false]

theorem value_print {label : String} (hcolon : ':' ∉ label.toList) (text : String) :
    value (print false label text) = text := by
  rw [value, toList_print_false, Text.colonValue_append hcolon, String.ofList_toList]

theorem quotedValue_print {label : String} (hquote : '\'' ∉ label.toList) (text : String) :
    quotedValue (print true label text) = text := by
  have hstart : '\'' ∉ label.toList ++ [':', ' '] := by simp [hquote]
  rw [quotedValue, toList_print_true, Text.quotedValue_append hstart, String.ofList_toList]

theorem read_print {label : String} (hcolon : ':' ∉ label.toList) (hquote : '\'' ∉ label.toList)
    (quoted : Bool) (text : String) : read quoted (print quoted label text) = text := by
  cases quoted with
  | false => exact value_print hcolon text
  | true => exact quotedValue_print hquote text

/-- None of the words occurs in the text. -/
def Avoids (words : List String) (text : String) : Prop :=
  ∀ word ∈ words, contains word text = false

instance (words : List String) (text : String) : Decidable (Avoids words text) :=
  inferInstanceAs (Decidable (∀ _ ∈ _, _))

end CecGateway.Line
