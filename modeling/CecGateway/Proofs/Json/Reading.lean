import CecGateway.Json.Reader
import CecGateway.Proofs.Json.Spelling
import CecGateway.Proofs.Text.Decimal
import CecGateway.Proofs.Text.Utf8

/-!
# The reader knows every spelling

What a text spells is what is read from it, whatever follows (`value_of_spells`). What is left over
may lack some of the blanks that follow the value.
-/

namespace CecGateway.Json

open Decimal (isDigit_of_mem_digits exists_digits valueOf_digits head?_digits)
open Utf8 (Piece)

/-! ## Blanks and tokens -/

section

variable {c d : Char} {input rest left : Input}

theorem isSpace_iff : isSpace c = true ↔ c ∈ blanks := by
  simp [isSpace, blanks, or_assoc]

theorem skipSpace_of_blank (hc : c ∈ blanks) (rest : Input) :
    skipSpace (.char c :: rest) = skipSpace rest := by
  rw [skipSpace, if_pos (isSpace_iff.mpr hc)]

theorem skipSpace_of_not_blank (hc : c ∉ blanks) (rest : Input) :
    skipSpace (.char c :: rest) = .char c :: rest := by
  rw [skipSpace, if_neg (by rwa [isSpace_iff])]

theorem skipSpace_of_blanks {inside : List Char} (hinside : inside ⊆ blanks) (rest : Input) :
    skipSpace (inside.map Piece.char ++ rest) = skipSpace rest := by
  induction inside with
  | nil => rfl
  | cons b inside ih =>
      obtain ⟨hb, hinside⟩ := List.cons_subset.mp hinside
      rw [List.map_cons, List.cons_append, skipSpace_of_blank hb, ih hinside]

theorem token_of_skipSpace (h : skipSpace input = .char c :: rest) : token c input = some rest := by
  simp [token, h, literal]

theorem token_ne_of_skipSpace (h : skipSpace input = .char d :: rest) (hne : d ≠ c) :
    token c input = none := by
  simp [token, h, literal, hne]

theorem skipSpace_of_token (h : token c input = some rest) :
    skipSpace input = .char c :: rest := by
  unfold token at h
  generalize skipSpace input = found at h
  unfold literal at h
  split at h <;> simp_all [literal]

end

/-! ## Strings -/

theorem hexValue?_of_isHexDigit {n : Nat} {c : Char} (h : IsHexDigit n c) :
    hexValue? c = some n := by
  have htables : ∀ table ∈ ["0123456789abcdef".toList, "0123456789ABCDEF".toList],
      ∀ d ∈ table.zipIdx, hexValue? d.1 = some d.2 := by decide
  obtain h | h := h
  · exact htables _ (by simp) _ (List.mk_mem_zipIdx_iff_getElem?.mpr h)
  · exact htables _ (by simp) _ (List.mk_mem_zipIdx_iff_getElem?.mpr h)

theorem hex4_of_spells {n : Nat} {digits : List Char} (h : SpellsUnit n digits) (rest : Input) :
    hex4 (digits.map Piece.char ++ rest) = some (n, rest) := by
  cases h with
  | mk ha hb hc hd =>
      simp [hex4, hexValue?_of_isHexDigit ha, hexValue?_of_isHexDigit hb,
        hexValue?_of_isHexDigit hc, hexValue?_of_isHexDigit hd]

section

variable {c : Char}

theorem unicodeEscape_of_unit {digits : List Char} (h : SpellsUnit c.toNat digits)
    (rest : Input) : unicodeEscape (digits.map Piece.char ++ rest) = some (c, rest) := by
  have hsurrogate := Utf8.not_isSurrogate c
  have hlow : isLowSurrogate c.toNat = false := by
    simp only [isLowSurrogate, Bool.and_eq_false_iff, decide_eq_false_iff_not]
    omega
  have hhigh : isHighSurrogate c.toNat = false := by
    simp only [isHighSurrogate, Bool.and_eq_false_iff, decide_eq_false_iff_not]
    omega
  simp [unicodeEscape, hex4_of_spells h, hlow, hhigh]

theorem unicodeEscape_of_surrogates {high low : Nat} {highDigits lowDigits : List Char}
    (hhigh : SpellsUnit (0xD800 + high) highDigits) (hlow : SpellsUnit (0xDC00 + low) lowDigits)
    (hlt : low < 0x400) (hchar : c.toNat = 0x10000 + (high * 0x400 + low)) (rest : Input) :
    unicodeEscape ((highDigits ++ '\\' :: 'u' :: lowDigits).map Piece.char ++ rest) =
      some (c, rest) := by
  have hbound := Utf8.toNat_lt c
  have hfirst : isLowSurrogate (0xD800 + high) = false := by
    simp only [isLowSurrogate, Bool.and_eq_false_iff, decide_eq_false_iff_not]
    omega
  have hisHigh : isHighSurrogate (0xD800 + high) = true := by
    simp only [isHighSurrogate, Bool.and_eq_true, decide_eq_true_eq]
    omega
  have hisLow : isLowSurrogate (0xDC00 + low) = true := by
    simp only [isLowSurrogate, Bool.and_eq_true, decide_eq_true_eq]
    omega
  have hc : Char.ofNat (0x10000 + high * 0x400 + low) = c := Utf8.ofNat_eq (by omega)
  simp [unicodeEscape, hex4_of_spells hhigh, hfirst, hisHigh, literal, hex4_of_spells hlow, hisLow,
    hc]

/-- A character is read from any text that spells it. -/
theorem stringBody_of_spellsChar {w : List Char} (h : SpellsChar c w) (fuel : Nat)
    (rest : Input) :
    stringBody (fuel + 1) (w.map Piece.char ++ rest) = (do
      let (text, rest) ← stringBody fuel rest
      return (c :: text, rest)) := by
  cases h with
  | plain hcontrol hquote hbackslash =>
      have hprintable : ¬ c.toNat < 0x20 := by omega
      simp [stringBody, hquote, hbackslash, hprintable]
  | short hmem =>
      simp only [shortEscapes, List.mem_cons, Prod.mk.injEq, List.not_mem_nil, or_false] at hmem
      obtain ⟨rfl, rfl⟩ | ⟨rfl, rfl⟩ | ⟨rfl, rfl⟩ | ⟨rfl, rfl⟩ | ⟨rfl, rfl⟩ | ⟨rfl, rfl⟩ |
        ⟨rfl, rfl⟩ | ⟨rfl, rfl⟩ := hmem <;> rfl
  | unit hunit => simp [stringBody, unicodeEscape_of_unit hunit]
  | surrogates hhigh hlow hlt hchar =>
      have hescape := unicodeEscape_of_surrogates hhigh hlow hlt hchar rest
      simp only [List.map_append, List.map_cons, List.append_assoc, List.cons_append] at hescape
      simp [stringBody, hescape]

end

theorem SpellsChar.ne_nil {c : Char} {w : List Char} (h : SpellsChar c w) : w ≠ [] := by
  cases h <;> simp

theorem stringBody_of_spells {text body : List Char} (h : SpellsText text body) {fuel : Nat}
    (hfuel : body.length < fuel) (rest : Input) :
    stringBody fuel (body.map Piece.char ++ .char '"' :: rest) = some (text, rest) := by
  induction h generalizing fuel with
  | nil =>
      obtain ⟨fuel, rfl⟩ := Nat.exists_eq_add_of_lt hfuel
      simp [stringBody]
  | @cons c text w body hchar hrest ih =>
      have hlength := List.length_pos_iff.mpr hchar.ne_nil
      rw [List.length_append] at hfuel
      obtain ⟨fuel, rfl⟩ := Nat.exists_eq_add_of_lt (Nat.zero_lt_of_lt hfuel)
      rw [Nat.zero_add, List.map_append, List.append_assoc, stringBody_of_spellsChar hchar,
        ih (by omega)]
      rfl

/-- What spells a text is its body in quotes, among blanks. -/
theorem exists_of_spells_str {n : Nat} {v : Json} {w : List Char} :
    Spells n v w → ∀ {s : String}, v = .str s →
      ∃ before body after, before ⊆ blanks ∧ after ⊆ blanks ∧ SpellsText s.toList body ∧
        w = before ++ ('"' :: body ++ '"' :: after)
  | .str hbody, s, hv => by
      obtain rfl := Json.str.inj hv
      exact ⟨[], _, [], List.nil_subset _, List.nil_subset _, hbody, rfl⟩
  | .blankBefore hb hw, s, hv => by
      obtain ⟨before, body, after, hbefore, hafter, hbody, rfl⟩ := exists_of_spells_str hw hv
      exact ⟨_ :: before, body, after, List.cons_subset.mpr ⟨hb, hbefore⟩, hafter, hbody, rfl⟩
  | @Spells.blankAfter _ _ b _ hb hw, s, hv => by
      obtain ⟨before, body, after, hbefore, hafter, hbody, rfl⟩ := exists_of_spells_str hw hv
      refine ⟨before, body, after ++ [b], hbefore, ?_, hbody, by simp⟩
      exact List.append_subset.mpr ⟨hafter, List.cons_subset.mpr ⟨hb, List.nil_subset _⟩⟩
  | .null, _, hv | .true, _, hv | .false, _, hv | .int .., _, hv | .emptyArr .., _, hv
  | .arr .., _, hv | .emptyObj .., _, hv | .obj .., _, hv => nomatch hv

theorem string_of_spells {n : Nat} {s : String} {w : List Char} (h : Spells n (.str s) w)
    (rest : Input) :
    ∃ left, string (w.map Piece.char ++ rest) = some (s, left) ∧ skipSpace left = skipSpace rest
    := by
  obtain ⟨before, body, after, hbefore, hafter, hbody, rfl⟩ := exists_of_spells_str h rfl
  have hquote : '"' ∉ blanks := by decide
  refine ⟨after.map Piece.char ++ rest, ?_, skipSpace_of_blanks hafter rest⟩
  have hopen : token '"' ((before ++ ('"' :: body ++ '"' :: after)).map Piece.char ++ rest) =
      some (body.map Piece.char ++ .char '"' :: (after.map Piece.char ++ rest)) := by
    refine token_of_skipSpace ?_
    rw [List.map_append, List.append_assoc, skipSpace_of_blanks hbefore]
    simp [skipSpace_of_not_blank hquote]
  have hfuel : body.length <
      ((before ++ ('"' :: body ++ '"' :: after)).map Piece.char ++ rest).length := by
    simp only [List.length_append, List.length_map, List.length_cons]
    omega
  simp only [string, hopen, Option.bind_eq_bind, Option.bind_some]
  rw [stringBody_of_spells hbody hfuel]
  simp

/-! ## Numbers -/

/-- No numeral goes on here. -/
inductive EndsNumeral : Input → Prop
  | nil : EndsNumeral []
  | junk (bytes : List UInt8) (rest : Input) : EndsNumeral (.junk bytes :: rest)
  | char {c : Char} (hdigit : Decimal.isDigit c = false) (hpoint : c ≠ '.')
      (hexponent : c ≠ 'e' ∧ c ≠ 'E') (rest : Input) : EndsNumeral (.char c :: rest)

section

variable {rest : Input}

theorem takeDigits_of_digits {ds : List Char} (hdigits : ∀ d ∈ ds, Decimal.isDigit d = true)
    (hrest : EndsNumeral rest) : takeDigits (ds.map Piece.char ++ rest) = (ds, rest) := by
  induction ds with
  | nil =>
      cases hrest with
      | nil | junk => rfl
      | char hdigit => simp [takeDigits, hdigit]
  | cons d ds ih =>
      obtain ⟨hd, hds⟩ := List.forall_mem_cons.mp hdigits
      simp [takeDigits, hd, ih hds]

theorem numeral_stops (hrest : EndsNumeral rest) :
    numeralFraction rest = some (none, rest) ∧ numeralExponent rest = some (none, rest) := by
  cases hrest with
  | nil | junk => exact ⟨rfl, rfl⟩
  | char hdigit hpoint hexponent => simp [numeralFraction, numeralExponent, hpoint, hexponent]

/-- What stands behind the sign of a numeral. -/
def unsigned (negative : Bool) (input : Input) : Option (Numeral × Input) :=
  match takeDigits input with
  | ([], _) => none
  | (d :: ds, rest) =>
    if d = '0' && !ds.isEmpty then none
    else do
      let (fraction, rest) ← numeralFraction rest
      let (exponent, rest) ← numeralExponent rest
      return (⟨negative, d :: ds, fraction, exponent⟩, rest)

theorem numeral_minus (input : Input) : numeral (.char '-' :: input) = unsigned true input := rfl

theorem numeral_of_ne {c : Char} (hc : c ≠ '-') (input : Input) :
    numeral (.char c :: input) = unsigned false (.char c :: input) := by
  unfold numeral
  split
  rename_i negative digits hsign
  obtain ⟨rfl, rfl⟩ : false = negative ∧ .char c :: input = digits := by simpa [hc] using hsign
  rfl

theorem unsigned_of_digits (n : Nat) (negative : Bool) (hrest : EndsNumeral rest) :
    unsigned negative ((Decimal.digits n).map Piece.char ++ rest) =
      some (⟨negative, Decimal.digits n, none, none⟩, rest) := by
  obtain ⟨hfraction, hexponent⟩ := numeral_stops hrest
  have htake := takeDigits_of_digits (isDigit_of_mem_digits (n := n)) hrest
  have hleading : n = 0 ∨ (Decimal.digits n).head? ≠ some '0' :=
    n.eq_zero_or_pos.imp id head?_digits
  obtain ⟨d, ds, hds⟩ := exists_digits n
  rw [hds] at htake hleading ⊢
  have hzero : (d = '0' && !ds.isEmpty) = false := by
    obtain rfl | hhead := hleading
    · obtain ⟨rfl, rfl⟩ := List.cons.inj hds
      rfl
    · have hd : d ≠ '0' := by simpa using hhead
      simp [hd]
  rw [List.map_cons, List.cons_append] at htake ⊢
  simp only [unsigned, htake, hzero, hfraction, hexponent, Option.bind_eq_bind, Option.bind_some]
  rfl

theorem numeral_of_intDigits (i : Int) (hrest : EndsNumeral rest) :
    numeral ((Decimal.intDigits i).map Piece.char ++ rest) =
      some (⟨i < 0, Decimal.digits i.natAbs, none, none⟩, rest) := by
  unfold Decimal.intDigits
  split
  · rename_i hnegative
    rw [List.map_cons, List.cons_append, numeral_minus, unsigned_of_digits _ _ hrest]
    simp [hnegative]
  · rename_i hnonnegative
    have hunsigned := unsigned_of_digits i.natAbs false hrest
    obtain ⟨d, ds, hds⟩ := exists_digits i.natAbs
    have hd : d ≠ '-' := by
      rintro rfl
      have hdigit := isDigit_of_mem_digits '-' (hds ▸ List.mem_cons_self)
      contradiction
    rw [hds] at hunsigned ⊢
    rw [List.map_cons, List.cons_append] at hunsigned ⊢
    rw [numeral_of_ne hd, hunsigned]
    simp [hnonnegative]

theorem value?_of_digits {i : Int} (hbits : Is64Bit i) :
    Numeral.value? ⟨i < 0, Decimal.digits i.natAbs, none, none⟩ = some (.int i) := by
  have hsize : UInt64.size = 0x10000000000000000 := rfl
  obtain ⟨hlow, hhigh⟩ := hbits
  unfold Numeral.value?
  simp only [valueOf_digits, Option.isNone_none, Bool.true_and, decide_eq_true_eq]
  by_cases hnegative : i < 0
  · have hrange : 0 < i.natAbs ∧ i.natAbs ≤ UInt64.size / 2 := by omega
    have hvalue : -(i.natAbs : Int) = i := by omega
    simp only [hnegative, if_true, hvalue, hrange, decide_true, Bool.and_self]
  · have hrange : i.natAbs < UInt64.size := by omega
    have hvalue : (i.natAbs : Int) = i := by omega
    simp only [hnegative, if_false, hvalue, hrange, decide_true, if_true]

end

/-! ## Values -/

section

variable {depth fuel : Nat} {input rest : Input}

theorem value_of_blank {b : Char} (hb : b ∈ blanks) :
    value depth fuel (.char b :: input) = value depth fuel input := by
  cases fuel with
  | zero => rfl
  | succ fuel => simp only [value, skipSpace_of_blank hb]

/-- What begins a numeral begins no other value. -/
theorem starts_nothing_else {c : Char} (hc : c = '-' ∨ Decimal.isDigit c = true) :
    c ≠ 'n' ∧ c ≠ 't' ∧ c ≠ 'f' ∧ c ≠ '"' ∧ c ≠ '[' ∧ c ≠ '\x7b' := by
  refine ⟨?_, ?_, ?_, ?_, ?_, ?_⟩ <;> rintro rfl <;> simp [Decimal.isDigit] at hc

theorem value_of_numeral {c : Char} (hc : c = '-' ∨ Decimal.isDigit c = true) :
    value depth (fuel + 1) (.char c :: input) = (do
      let (n, rest) ← numeral (.char c :: input)
      return (← n.value?, rest)) := by
  have hblank : c ∉ blanks := by
    intro hmem
    simp only [blanks, List.mem_cons, List.not_mem_nil, or_false] at hmem
    obtain rfl | rfl | rfl | rfl := hmem <;> exact absurd hc (by decide)
  have hothers := starts_nothing_else hc
  simp only [value, skipSpace_of_not_blank hblank]
  simp [hothers]

theorem value_of_string {s : String} (h : string (.char '"' :: input) = some (s, rest)) :
    value depth (fuel + 1) (.char '"' :: input) = some (.str s, rest) := by
  have hblank : '"' ∉ blanks := by decide
  simp [value, skipSpace_of_not_blank hblank, h]

theorem value_of_closed_array (hdepth : 1 < depth) (h : token ']' input = some rest) :
    value depth (fuel + 1) (.char '[' :: input) = some (.arr [], rest) := by
  have hblank : '[' ∉ blanks := by decide
  simp [value, skipSpace_of_not_blank hblank, Nat.not_le.mpr hdepth, h]

theorem value_of_closed_object (hdepth : 1 < depth) (h : token '\x7d' input = some rest) :
    value depth (fuel + 1) (.char '\x7b' :: input) = some (.obj [], rest) := by
  have hblank : '\x7b' ∉ blanks := by decide
  simp [value, skipSpace_of_not_blank hblank, Nat.not_le.mpr hdepth, h, ofMembers]

/-- No value begins with a bracket that closes. -/
theorem value_of_closing {c : Char} (hc : c = ']' ∨ c = '\x7d')
    (h : skipSpace input = .char c :: rest) : value depth fuel input = none := by
  cases fuel with
  | zero => rfl
  | succ fuel => obtain rfl | rfl := hc <;> simp [value, h, numeral, takeDigits, Decimal.isDigit]

theorem token_of_items {x : List Json × Input} (h : items depth fuel input = some x) :
    token ']' input = none := by
  cases htoken : token ']' input with
  | none => rfl
  | some after =>
      cases fuel with
      | zero => simp [items] at h
      | succ fuel => simp [items, value_of_closing (.inl rfl) (skipSpace_of_token htoken)] at h

theorem token_of_members {x : List (String × Json) × Input}
    (h : members depth fuel input = some x) : token '\x7d' input = none := by
  cases htoken : token '\x7d' input with
  | none => rfl
  | some after =>
      cases fuel with
      | zero => simp [members] at h
      | succ fuel => simp [members, string, token, skipSpace_of_token htoken, literal] at h

theorem value_of_items {items' : List Json} (hdepth : 1 < depth)
    (h : items (depth - 1) fuel input = some (items', rest)) :
    value depth (fuel + 1) (.char '[' :: input) = some (.arr items', rest) := by
  have hblank : '[' ∉ blanks := by decide
  simp [value, skipSpace_of_not_blank hblank, Nat.not_le.mpr hdepth, token_of_items h, h]

theorem value_of_members {members' : List (String × Json)} (hdepth : 1 < depth)
    (h : members (depth - 1) fuel input = some (members', rest)) :
    value depth (fuel + 1) (.char '\x7b' :: input) = some (ofMembers members', rest) := by
  have hblank : '\x7b' ∉ blanks := by decide
  simp [value, skipSpace_of_not_blank hblank, Nat.not_le.mpr hdepth, token_of_members h, h]

theorem endsNumeral_of_blank {b : Char} (hb : b ∈ blanks) (rest : Input) :
    EndsNumeral (.char b :: rest) := by
  simp only [blanks, List.mem_cons, List.not_mem_nil, or_false] at hb
  obtain rfl | rfl | rfl | rfl := hb <;> exact .char (by decide) (by decide) (by decide) rest

theorem endsNumeral_of_mark (c : Char) (hc : c ∈ [',', ']', '\x7d']) (rest : Input) :
    EndsNumeral (.char c :: rest) := by
  simp only [List.mem_cons, List.not_mem_nil, or_false] at hc
  obtain rfl | rfl | rfl := hc <;> exact .char (by decide) (by decide) (by decide) rest

theorem value_of_intDigits {i : Int} (hbits : Is64Bit i) (hrest : EndsNumeral rest) :
    value depth (fuel + 1) ((Decimal.intDigits i).map Piece.char ++ rest) =
      some (.int i, rest) := by
  obtain ⟨c, cs, hdigits, hc⟩ : ∃ c cs, Decimal.intDigits i = c :: cs ∧
      (c = '-' ∨ Decimal.isDigit c = true) := by
    unfold Decimal.intDigits
    split
    · exact ⟨_, _, rfl, .inl rfl⟩
    · obtain ⟨d, ds, hds⟩ := exists_digits i.natAbs
      exact ⟨d, ds, hds, .inr (isDigit_of_mem_digits d (hds ▸ List.mem_cons_self))⟩
  have hnumeral := numeral_of_intDigits i hrest
  rw [hdigits, List.map_cons, List.cons_append] at hnumeral ⊢
  rw [value_of_numeral hc, hnumeral]
  simp [value?_of_digits hbits]

/-- What follows a mark has been reached when the mark is found. -/
theorem token_of_left (c : Char) {left : Input} (hc : c ∉ blanks)
    (hleft : skipSpace left = skipSpace (.char c :: rest)) : token c left = some rest :=
  token_of_skipSpace (hleft.trans (skipSpace_of_not_blank hc rest))

theorem token_ne_of_left (c d : Char) {left : Input} (hd : d ∉ blanks) (hne : d ≠ c)
    (hleft : skipSpace left = skipSpace (.char d :: rest)) : token c left = none :=
  token_ne_of_skipSpace (hleft.trans (skipSpace_of_not_blank hd rest)) hne

end

theorem intDigits_length_pos (i : Int) : 0 < (Decimal.intDigits i).length := by
  unfold Decimal.intDigits
  split
  · exact Nat.succ_pos _
  · exact Nat.length_toDigits_pos

mutual

/-- A value is read from every text that spells it, as long as it nests no deeper than allowed. -/
theorem value_of_spells {n : Nat} {v : Json} {w : List Char} :
    Spells n v w → ∀ (depth fuel : Nat) (rest : Input), n < depth → w.length ≤ fuel →
      EndsNumeral rest → ∃ left, value depth fuel (w.map Piece.char ++ rest) = some (v, left) ∧
        skipSpace left = skipSpace rest
  | .null, _, _ + 1, rest, _, _, _ => ⟨rest, rfl, rfl⟩
  | .true, _, _ + 1, rest, _, _, _ => ⟨rest, rfl, rfl⟩
  | .false, _, _ + 1, rest, _, _, _ => ⟨rest, rfl, rfl⟩
  | @Spells.int _ i hbits, _, fuel, rest, _, hfuel, hrest => by
      have hlength := intDigits_length_pos i
      obtain ⟨fuel, rfl⟩ := Nat.exists_eq_add_of_lt (Nat.lt_of_lt_of_le hlength hfuel)
      rw [Nat.zero_add]
      exact ⟨rest, value_of_intDigits hbits hrest, rfl⟩
  | @Spells.str n s body hbody, _, _ + 1, rest, _, _, _ => by
      obtain ⟨left, hstring, hleft⟩ := string_of_spells (Spells.str (n := n) hbody) rest
      exact ⟨left, value_of_string hstring, hleft⟩
  | @Spells.emptyArr _ inside hinside, _, _ + 1, rest, hdepth, _, _ => by
      have hclose :=
        token_of_left ']' (by decide) (skipSpace_of_blanks hinside (.char ']' :: rest))
      refine ⟨rest, ?_, rfl⟩
      simpa using value_of_closed_array (by omega) hclose
  | @Spells.arr _ _ w hitems, depth, fuel + 1, rest, hdepth, hfuel, _ => by
      simp only [List.length_append, List.length_cons, List.length_nil] at hfuel
      have hread := items_of_spells hitems (depth - 1) fuel rest (by omega) (by omega)
      refine ⟨rest, ?_, rfl⟩
      simpa using value_of_items (by omega) hread
  | @Spells.emptyObj _ inside hinside, _, _ + 1, rest, hdepth, _, _ => by
      have hclose :=
        token_of_left '\x7d' (by decide) (skipSpace_of_blanks hinside (.char '\x7d' :: rest))
      refine ⟨rest, ?_, rfl⟩
      simpa using value_of_closed_object (by omega) hclose
  | @Spells.obj _ _ w hmembers, depth, fuel + 1, rest, hdepth, hfuel, _ => by
      simp only [List.length_append, List.length_cons, List.length_nil] at hfuel
      have hread := members_of_spells hmembers (depth - 1) fuel rest (by omega) (by omega)
      refine ⟨rest, ?_, rfl⟩
      simpa using value_of_members (by omega) hread
  | .blankBefore hb hw, depth, fuel, rest, hdepth, hfuel, hrest => by
      obtain ⟨left, hread, hleft⟩ :=
        value_of_spells hw depth fuel rest hdepth (Nat.le_of_succ_le hfuel) hrest
      refine ⟨left, ?_, hleft⟩
      rw [List.map_cons, List.cons_append, value_of_blank hb, hread]
  | @Spells.blankAfter _ _ b w hb hw, depth, fuel, rest, hdepth, hfuel, _ => by
      rw [List.length_append] at hfuel
      obtain ⟨left, hread, hleft⟩ := value_of_spells hw depth fuel (.char b :: rest) hdepth
        (by omega) (endsNumeral_of_blank hb rest)
      refine ⟨left, ?_, hleft.trans (skipSpace_of_blank hb rest)⟩
      simpa using hread

theorem items_of_spells {n : Nat} {vs : List Json} {w : List Char} :
    SpellsItems n vs w → ∀ (depth fuel : Nat) (rest : Input), n < depth → w.length < fuel →
      items depth fuel (w.map Piece.char ++ .char ']' :: rest) = some (vs, rest)
  | .last hw, depth, fuel + 1, rest, hdepth, hfuel => by
      obtain ⟨left, hread, hleft⟩ := value_of_spells hw depth fuel (.char ']' :: rest) hdepth
        (Nat.le_of_lt_succ hfuel) (endsNumeral_of_mark ']' (by decide) rest)
      have hcomma := token_ne_of_left ',' ']' (by decide) (by decide) hleft
      simp [items, hread, hcomma, token_of_left ']' (by decide) hleft]
  | @SpellsItems.cons _ _ _ w ws hw hws, depth, fuel + 1, rest, hdepth, hfuel => by
      rw [List.length_append, List.length_cons] at hfuel
      obtain ⟨left, hread, hleft⟩ := value_of_spells hw depth fuel
        (.char ',' :: (ws.map Piece.char ++ .char ']' :: rest)) hdepth (by omega)
        (endsNumeral_of_mark ',' (by decide) _)
      have hrest := items_of_spells hws depth fuel rest hdepth (by omega)
      simp [items, hread, token_of_left ',' (by decide) hleft, hrest]

theorem members_of_spells {n : Nat} {ms : List (String × Json)} {w : List Char} :
    SpellsMembers n ms w → ∀ (depth fuel : Nat) (rest : Input), n < depth → w.length < fuel →
      members depth fuel (w.map Piece.char ++ .char '\x7d' :: rest) = some (ms, rest)
  | @SpellsMembers.last _ _ _ k w hk hw, depth, fuel + 1, rest, hdepth, hfuel => by
      rw [List.length_append, List.length_cons] at hfuel
      obtain ⟨behind, hkey, hbehind⟩ := string_of_spells hk
        (.char ':' :: (w.map Piece.char ++ .char '\x7d' :: rest))
      obtain ⟨left, hread, hleft⟩ := value_of_spells hw depth fuel (.char '\x7d' :: rest) hdepth
        (by omega) (endsNumeral_of_mark '\x7d' (by decide) rest)
      have hcomma := token_ne_of_left ',' '\x7d' (by decide) (by decide) hleft
      simp [members, hkey, token_of_left ':' (by decide) hbehind, hread, hcomma,
        token_of_left '\x7d' (by decide) hleft]
  | @SpellsMembers.cons _ _ _ _ k w ws hk hw hws, depth, fuel + 1, rest, hdepth, hfuel => by
      simp only [List.length_append, List.length_cons] at hfuel
      obtain ⟨behind, hkey, hbehind⟩ := string_of_spells hk (.char ':' :: (w.map Piece.char ++
        .char ',' :: (ws.map Piece.char ++ .char '\x7d' :: rest)))
      obtain ⟨left, hread, hleft⟩ := value_of_spells hw depth fuel
        (.char ',' :: (ws.map Piece.char ++ .char '\x7d' :: rest)) hdepth (by omega)
        (endsNumeral_of_mark ',' (by decide) _)
      have hrest := members_of_spells hws depth fuel rest hdepth (by omega)
      simp [members, hkey, token_of_left ':' (by decide) hbehind, hread,
        token_of_left ',' (by decide) hleft, hrest]

end

/-! ## Documents -/

/-- Reads a document that may nest to another depth. -/
def parseWithin? (depth : Nat) (bytes : List UInt8) : Option Json := do
  let input := Utf8.decode bytes
  let (v, rest) ← value depth (fuelFor input) input
  if (skipSpace rest).isEmpty then return v else none

theorem parse?_eq_parseWithin? : parse? = parseWithin? maxDepth := rfl

theorem parseWithin?_of_spells {n depth : Nat} {v : Json} {w : List Char} (h : Spells n v w)
    (hdepth : n < depth) : parseWithin? depth (Utf8.encode w) = some v := by
  have hfuel : w.length ≤ fuelFor (w.map Piece.char) := by
    simp only [fuelFor, List.length_map]
    omega
  obtain ⟨left, hread, hleft⟩ := value_of_spells h depth _ [] hdepth hfuel .nil
  rw [List.append_nil] at hread
  simp [parseWithin?, Utf8.decode_encode, hread, hleft, skipSpace]

end CecGateway.Json
