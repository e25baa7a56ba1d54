import CecGateway.Proofs.Json.Printing
import CecGateway.Proofs.Json.Reading

/-!
# How far a value goes

How a value is read is said once, as a relation (`reads_of_value`). It does not depend on how deep
the reader may go, as long as it gets to the end (`value_of_reads`), and a value that is skipped
ends where it would end if it were kept (`skip_of_reads`).
-/

namespace CecGateway.Json

/-! ## Lengths -/

section

variable {c : Char} {cs : List Char} {input rest : Input}

theorem length_skipSpace_le (input : Input) : (skipSpace input).length ≤ input.length := by
  fun_induction skipSpace input with
  | case1 c rest hspace ih => exact Nat.le_succ_of_le ih
  | case2 => exact Nat.le_refl _
  | case3 => exact Nat.le_refl _

theorem skipSpace_skipSpace (input : Input) : skipSpace (skipSpace input) = skipSpace input := by
  fun_induction skipSpace input with
  | case1 c rest hspace ih => exact ih
  | case2 c rest hspace => rw [skipSpace, if_neg hspace]
  | case3 input hother => rw [skipSpace]; exact hother

theorem exists_of_literal (h : literal (c :: cs) input = some rest) :
    ∃ after, input = .char c :: after ∧ literal cs after = some rest := by
  unfold literal at h
  split at h
  · contradiction
  · next hcons =>
      obtain ⟨rfl, rfl⟩ := List.cons.inj hcons
      split_ifs at h with hsame
      exact ⟨_, by rw [hsame], h⟩
  · contradiction

theorem length_literal (h : literal cs input = some rest) :
    rest.length + cs.length = input.length := by
  induction cs generalizing input with
  | nil =>
      obtain rfl : input = rest := Option.some_inj.mp h
      rfl
  | cons c cs ih =>
      obtain ⟨after, rfl, hrest⟩ := exists_of_literal h
      have hlength := ih hrest
      simp only [List.length_cons]
      omega

theorem length_token_lt (h : token c input = some rest) : rest.length < input.length := by
  have hlength := length_literal h
  have hle := length_skipSpace_le input
  rw [List.length_singleton] at hlength
  omega

theorem length_takeDigits {ds : List Char} (h : takeDigits input = (ds, rest)) :
    ds.length + rest.length = input.length := by
  fun_induction takeDigits input generalizing ds with
  | case1 c after hdigit more left htake ih =>
      obtain ⟨rfl, rfl⟩ := Prod.mk.inj h
      have hlength := ih htake
      simp only [List.length_cons]
      omega
  | case2 | case3 =>
      obtain ⟨rfl, rfl⟩ := Prod.mk.inj h
      exact Nat.zero_add _

theorem length_numeralFraction_le {fraction : Option (List Char)}
    (h : numeralFraction input = some (fraction, rest)) : rest.length ≤ input.length := by
  unfold numeralFraction at h
  split at h
  · split at h
    · contradiction
    · next htake =>
        obtain ⟨-, rfl⟩ := Prod.mk.inj (Option.some_inj.mp h)
        have hlength := length_takeDigits htake
        simp only [List.length_cons]
        omega
  · obtain ⟨-, rfl⟩ := Prod.mk.inj (Option.some_inj.mp h)
    exact Nat.le_refl _

theorem length_numeralExponent_le {exponent : Option (Bool × List Char)}
    (h : numeralExponent input = some (exponent, rest)) : rest.length ≤ input.length := by
  unfold numeralExponent at h
  split at h
  · next c after =>
      split_ifs at h
      · split at h
        next negative digits hsign =>
        have hdigits : digits.length ≤ after.length := by
          split at hsign <;> obtain ⟨-, rfl⟩ := Prod.mk.inj hsign <;> simp
        split at h
        · contradiction
        · next htake =>
            obtain ⟨-, rfl⟩ := Prod.mk.inj (Option.some_inj.mp h)
            have hlength := length_takeDigits htake
            simp only [List.length_cons]
            omega
      · obtain ⟨-, rfl⟩ := Prod.mk.inj (Option.some_inj.mp h)
        exact Nat.le_refl _
  · obtain ⟨-, rfl⟩ := Prod.mk.inj (Option.some_inj.mp h)
    exact Nat.le_refl _

theorem exists_of_unsigned {negative : Bool} {n : Numeral}
    (h : unsigned negative input = some (n, rest)) :
    rest.length < input.length ∧
      ∃ d after, input = .char d :: after ∧ Decimal.isDigit d = true := by
  unfold unsigned at h
  split at h
  · contradiction
  · next d ds left htake =>
      split_ifs at h
      simp only [Option.bind_eq_bind, Option.bind_eq_some_iff, Prod.exists] at h
      obtain ⟨fraction, behind, hfraction, exponent, after, hexponent, h⟩ := h
      obtain ⟨-, rfl⟩ := Prod.mk.inj (Option.some_inj.mp h)
      have hdigits := length_takeDigits htake
      have hbehind := length_numeralFraction_le hfraction
      have hafter := length_numeralExponent_le hexponent
      rw [List.length_cons] at hdigits
      refine ⟨by omega, ?_⟩
      unfold takeDigits at htake
      split at htake
      · split_ifs at htake with hdigit
        · exact ⟨_, _, rfl, hdigit⟩
        · simp at htake
      · simp at htake

/-- A numeral begins with its sign or with a digit. -/
theorem exists_of_numeral {n : Numeral} (h : numeral input = some (n, rest)) :
    rest.length < input.length ∧
      ∃ c after, input = .char c :: after ∧ (c = '-' ∨ Decimal.isDigit c = true) := by
  cases input with
  | nil => exact absurd h (by simp [numeral, takeDigits])
  | cons piece after =>
      cases piece with
      | junk bytes => exact absurd h (by simp [numeral, takeDigits])
      | char c =>
          by_cases hminus : c = '-'
          · subst hminus
            rw [numeral_minus] at h
            have hlength := (exists_of_unsigned h).1
            exact ⟨Nat.lt_succ_of_lt hlength, '-', after, rfl, .inl rfl⟩
          · rw [numeral_of_ne hminus] at h
            obtain ⟨hlength, d, others, hcons, hdigit⟩ := exists_of_unsigned h
            exact ⟨hlength, d, others, hcons, .inr hdigit⟩

end

/-! ## Strings -/

section

variable {text : List Char} {input rest : Input} {fuel : Nat}

theorem exists_of_string {s : String} (h : string input = some (s, rest)) :
    ∃ inside text, token '"' input = some inside ∧
      stringBody input.length inside = some (text, rest) ∧ String.ofList text = s := by
  simp only [string, Option.bind_eq_bind, Option.bind_eq_some_iff, Prod.exists] at h
  obtain ⟨inside, hopen, text, left, hbody, h⟩ := h
  obtain ⟨hs, rfl⟩ := Prod.mk.inj (Option.some_inj.mp h)
  exact ⟨inside, text, hopen, hbody, hs⟩

theorem length_hex4 {n : Nat} (h : hex4 input = some (n, rest)) : rest.length < input.length := by
  unfold hex4 at h
  split at h
  · simp only [Option.bind_eq_bind, Option.bind_eq_some_iff] at h
    obtain ⟨a, -, b, -, c, -, d, -, h⟩ := h
    obtain ⟨-, rfl⟩ := Prod.mk.inj (Option.some_inj.mp h)
    simp only [List.length_cons]
    omega
  · contradiction

/-- An escape that is read is skipped, a pair of surrogates as two. -/
theorem skipString_of_unicodeEscape {c : Char} (h : unicodeEscape input = some (c, rest)) :
    rest.length < input.length ∧ ∀ k, input.length ≤ k → ∃ left, rest.length ≤ left ∧
      (do skipString k (← hex4 input).2) = skipString left rest := by
  simp only [unicodeEscape, Option.bind_eq_bind, Option.bind_eq_some_iff, Prod.exists] at h
  obtain ⟨n, behind, hfirst, h⟩ := h
  have hlength := length_hex4 hfirst
  split_ifs at h
  · simp only [Option.bind_eq_some_iff, Prod.exists] at h
    obtain ⟨after, hliteral, m, left, hsecond, h⟩ := h
    split_ifs at h
    obtain ⟨-, rfl⟩ := Prod.mk.inj (Option.some_inj.mp h)
    obtain ⟨_, rfl, hletter⟩ := exists_of_literal hliteral
    obtain ⟨_, rfl, hafter⟩ := exists_of_literal hletter
    obtain rfl : _ = after := Option.some_inj.mp hafter
    have hmore := length_hex4 hsecond
    simp only [List.length_cons] at hlength
    refine ⟨by omega, fun k hk => ?_⟩
    obtain ⟨k, rfl⟩ := Nat.exists_eq_add_of_lt (Nat.lt_of_lt_of_le (Nat.zero_lt_of_lt hlength) hk)
    refine ⟨k, by omega, ?_⟩
    simp [hfirst, skipString, hsecond]
  · obtain ⟨-, rfl⟩ := Prod.mk.inj (Option.some_inj.mp h)
    exact ⟨hlength, fun k hk => ⟨k, by omega, by simp [hfirst]⟩⟩

/-- A string that is read is read with as much fuel as there is input, and skipped. -/
theorem skipString_of_stringBody (h : stringBody fuel input = some (text, rest)) :
    rest.length < input.length ∧ ∀ k, input.length ≤ k →
      stringBody k input = some (text, rest) ∧ skipString k input = some rest := by
  fun_induction stringBody fuel input generalizing text with
  | case1 => contradiction
  | case2 fuel after =>
      obtain ⟨rfl, rfl⟩ := Prod.mk.inj (Option.some_inj.mp h)
      refine ⟨Nat.lt_succ_self _, fun k hk => ?_⟩
      obtain ⟨k, rfl⟩ := Nat.exists_eq_add_of_lt hk
      simp [stringBody, skipString]
  | case3 fuel after hquote ih =>
      simp only [Option.bind_eq_bind, Option.bind_eq_some_iff, Prod.exists] at h
      obtain ⟨d, behind, hescape, more, left, hbody, h⟩ := h
      obtain ⟨rfl, rfl⟩ := Prod.mk.inj (Option.some_inj.mp h)
      obtain ⟨hshorter, hskip⟩ := skipString_of_unicodeEscape hescape
      obtain ⟨hlength, hrest⟩ := ih behind hbody
      simp only [List.length_cons]
      refine ⟨by omega, fun k hk => ?_⟩
      obtain ⟨k, rfl⟩ := Nat.exists_eq_add_of_lt (Nat.lt_of_lt_of_le (Nat.zero_lt_succ _) hk)
      obtain ⟨less, hless, hpassed⟩ := hskip k (by omega)
      rw [Nat.zero_add]
      refine ⟨?_, ?_⟩
      · simp [stringBody, hescape, (hrest k (by omega)).1]
      · simp only [skipString]
        simpa [(hrest less hless).2] using hpassed
  | case4 fuel e after hletter hquote ih =>
      simp only [Option.bind_eq_bind, Option.bind_eq_some_iff, Prod.exists] at h
      obtain ⟨d, hescape, more, left, hbody, h⟩ := h
      obtain ⟨rfl, rfl⟩ := Prod.mk.inj (Option.some_inj.mp h)
      obtain ⟨hlength, hrest⟩ := ih hbody
      simp only [List.length_cons]
      refine ⟨by omega, fun k hk => ?_⟩
      obtain ⟨k, rfl⟩ := Nat.exists_eq_add_of_lt (Nat.lt_of_lt_of_le (Nat.zero_lt_succ _) hk)
      obtain ⟨hread, hskip⟩ := hrest k (by omega)
      rw [Nat.zero_add]
      simp [stringBody, skipString, hescape, hread, hskip]
  | case5 | case6 => contradiction
  | case7 fuel c after hquote hbackslash hcontrol ih =>
      simp only [Option.bind_eq_bind, Option.bind_eq_some_iff, Prod.exists] at h
      obtain ⟨more, left, hbody, h⟩ := h
      obtain ⟨rfl, rfl⟩ := Prod.mk.inj (Option.some_inj.mp h)
      obtain ⟨hlength, hrest⟩ := ih hbody
      simp only [List.length_cons]
      refine ⟨by omega, fun k hk => ?_⟩
      obtain ⟨k, rfl⟩ := Nat.exists_eq_add_of_lt (Nat.lt_of_lt_of_le (Nat.zero_lt_succ _) hk)
      obtain ⟨hread, hskip⟩ := hrest k (by omega)
      rw [Nat.zero_add]
      simp [stringBody, skipString, hquote, hbackslash, hcontrol, hread, hskip]
  | case8 => contradiction

end

/-! ## How a value is read -/

def words : List (List Char × Json) :=
  [(['n', 'u', 'l', 'l'], .null), (['t', 'r', 'u', 'e'], .bool true),
    (['f', 'a', 'l', 's', 'e'], .bool false)]

mutual

/-- The value is read from the input and leaves the rest, with no more than `n` containers around
any part of it. -/
inductive Reads : Nat → Input → Json → Input → Prop
  | word {n : Nat} {input rest : Input} {word : List Char} {v : Json} (hmem : (word, v) ∈ words)
      (hword : literal word (skipSpace input) = some rest) : Reads n input v rest
  | str {n fuel : Nat} {input inside rest : Input} {text : List Char}
      (hopen : token '"' input = some inside)
      (hbody : stringBody fuel inside = some (text, rest)) :
      Reads n input (.str (String.ofList text)) rest
  | num {n : Nat} {input rest : Input} {v : Json} {number : Numeral}
      (hnumeral : numeral (skipSpace input) = some (number, rest))
      (hvalue : number.value? = some v) : Reads n input v rest
  | emptyArr {n : Nat} {input inside rest : Input} (hopen : token '[' input = some inside)
      (hclose : token ']' inside = some rest) : Reads (n + 1) input (.arr []) rest
  | arr {n : Nat} {input inside rest : Input} {items : List Json}
      (hopen : token '[' input = some inside) (hitems : ReadsItems n inside items rest) :
      Reads (n + 1) input (.arr items) rest
  | emptyObj {n : Nat} {input inside rest : Input} (hopen : token '\x7b' input = some inside)
      (hclose : token '\x7d' inside = some rest) : Reads (n + 1) input (ofMembers []) rest
  | obj {n : Nat} {input inside rest : Input} {members : List (String × Json)}
      (hopen : token '\x7b' input = some inside) (hmembers : ReadsMembers n inside members rest) :
      Reads (n + 1) input (ofMembers members) rest

inductive ReadsItems : Nat → Input → List Json → Input → Prop
  | last {n : Nat} {input left rest : Input} {v : Json} (hv : Reads n input v left)
      (hclose : token ']' left = some rest) : ReadsItems n input [v] rest
  | cons {n : Nat} {input left next rest : Input} {v : Json} {items : List Json}
      (hv : Reads n input v left) (hcomma : token ',' left = some next)
      (hrest : ReadsItems n next items rest) : ReadsItems n input (v :: items) rest

inductive ReadsMembers : Nat → Input → List (String × Json) → Input → Prop
  | last {n : Nat} {input behind place left rest : Input} {key : String} {v : Json}
      (hkey : string input = some (key, behind)) (hcolon : token ':' behind = some place)
      (hv : Reads n place v left) (hclose : token '\x7d' left = some rest) :
      ReadsMembers n input [(key, v)] rest
  | cons {n : Nat} {input behind place left next rest : Input} {key : String} {v : Json}
      {members : List (String × Json)} (hkey : string input = some (key, behind))
      (hcolon : token ':' behind = some place) (hv : Reads n place v left)
      (hcomma : token ',' left = some next) (hrest : ReadsMembers n next members rest) :
      ReadsMembers n input ((key, v) :: members) rest

end

theorem literal_cons (c : Char) (cs : List Char) (rest : Input) :
    literal (c :: cs) (.char c :: rest) = literal cs rest := by
  simp [literal]

section

variable {n fuel : Nat} {input rest : Input}

theorem reads_of_value_succ
    (hitems : ∀ n input vs rest, items (n + 1) fuel input = some (vs, rest) →
      ReadsItems n input vs rest)
    (hmembers : ∀ n input ms rest, members (n + 1) fuel input = some (ms, rest) →
      ReadsMembers n input ms rest)
    {v : Json} (h : value (n + 1) (fuel + 1) input = some (v, rest)) : Reads n input v rest := by
  have hword {c : Char} {cs : List Char} {after : Input} {w : Json}
      (hfirst : skipSpace input = .char c :: after) (hmem : (c :: cs, w) ∈ words)
      (h : (literal cs after).bind (fun left => some (w, left)) = some (v, rest)) :
      Reads n input v rest := by
    obtain ⟨left, hcs, h⟩ := Option.bind_eq_some_iff.mp h
    obtain ⟨rfl, rfl⟩ := Prod.mk.inj (Option.some_inj.mp h)
    exact .word hmem (by rwa [hfirst, literal_cons])
  unfold value at h
  split at h
  · next after hfirst => exact hword hfirst (by simp [words]) h
  · next after hfirst => exact hword hfirst (by simp [words]) h
  · next after hfirst => exact hword hfirst (by simp [words]) h
  · next after hfirst =>
      obtain ⟨⟨s, left⟩, hstring, h⟩ := Option.bind_eq_some_iff.mp h
      obtain ⟨rfl, rfl⟩ := Prod.mk.inj (Option.some_inj.mp h)
      obtain ⟨inside, text, hopen, hbody, rfl⟩ := exists_of_string hstring
      rw [← hfirst, token, skipSpace_skipSpace] at hopen
      exact .str hopen hbody
  · next after hfirst =>
      split_ifs at h with hdepth
      obtain ⟨n, rfl⟩ : ∃ m, n = m + 1 := Nat.exists_eq_add_one.mpr (by omega)
      split at h
      · next left hclose =>
          obtain ⟨rfl, rfl⟩ := Prod.mk.inj (Option.some_inj.mp h)
          exact .emptyArr (token_of_skipSpace hfirst) hclose
      · obtain ⟨⟨vs, left⟩, hread, h⟩ := Option.bind_eq_some_iff.mp h
        obtain ⟨rfl, rfl⟩ := Prod.mk.inj (Option.some_inj.mp h)
        exact .arr (token_of_skipSpace hfirst) (hitems n _ _ _ hread)
  · next after hfirst =>
      split_ifs at h with hdepth
      obtain ⟨n, rfl⟩ : ∃ m, n = m + 1 := Nat.exists_eq_add_one.mpr (by omega)
      split at h
      · next left hclose =>
          obtain ⟨rfl, rfl⟩ := Prod.mk.inj (Option.some_inj.mp h)
          exact .emptyObj (token_of_skipSpace hfirst) hclose
      · obtain ⟨⟨ms, left⟩, hread, h⟩ := Option.bind_eq_some_iff.mp h
        obtain ⟨rfl, rfl⟩ := Prod.mk.inj (Option.some_inj.mp h)
        exact .obj (token_of_skipSpace hfirst) (hmembers n _ _ _ hread)
  · obtain ⟨⟨number, left⟩, hnumeral, h⟩ := Option.bind_eq_some_iff.mp h
    obtain ⟨w, hvalue, h⟩ := Option.bind_eq_some_iff.mp h
    obtain ⟨rfl, rfl⟩ := Prod.mk.inj (Option.some_inj.mp h)
    exact .num hnumeral hvalue

theorem readsItems_of_items_succ
    (hvalue : ∀ n input v rest, value (n + 1) fuel input = some (v, rest) → Reads n input v rest)
    (hitems : ∀ n input vs rest, items (n + 1) fuel input = some (vs, rest) →
      ReadsItems n input vs rest)
    {vs : List Json} (h : items (n + 1) (fuel + 1) input = some (vs, rest)) :
    ReadsItems n input vs rest := by
  unfold items at h
  obtain ⟨⟨v, left⟩, hv, h⟩ := Option.bind_eq_some_iff.mp h
  dsimp only at h
  split at h
  · next after hcomma =>
      obtain ⟨⟨more, behind⟩, hmore, h⟩ := Option.bind_eq_some_iff.mp h
      obtain ⟨rfl, rfl⟩ := Prod.mk.inj (Option.some_inj.mp h)
      exact .cons (hvalue n _ _ _ hv) hcomma (hitems n _ _ _ hmore)
  · obtain ⟨behind, hclose, h⟩ := Option.bind_eq_some_iff.mp h
    obtain ⟨rfl, rfl⟩ := Prod.mk.inj (Option.some_inj.mp h)
    exact .last (hvalue n _ _ _ hv) hclose

theorem readsMembers_of_members_succ
    (hvalue : ∀ n input v rest, value (n + 1) fuel input = some (v, rest) → Reads n input v rest)
    (hmembers : ∀ n input ms rest, members (n + 1) fuel input = some (ms, rest) →
      ReadsMembers n input ms rest)
    {ms : List (String × Json)} (h : members (n + 1) (fuel + 1) input = some (ms, rest)) :
    ReadsMembers n input ms rest := by
  unfold members at h
  obtain ⟨⟨key, behind⟩, hkey, h⟩ := Option.bind_eq_some_iff.mp h
  obtain ⟨place, hcolon, h⟩ := Option.bind_eq_some_iff.mp h
  obtain ⟨⟨v, left⟩, hv, h⟩ := Option.bind_eq_some_iff.mp h
  dsimp only at h
  split at h
  · next after hcomma =>
      obtain ⟨⟨more, behind⟩, hmore, h⟩ := Option.bind_eq_some_iff.mp h
      obtain ⟨rfl, rfl⟩ := Prod.mk.inj (Option.some_inj.mp h)
      exact .cons hkey hcolon (hvalue n _ _ _ hv) hcomma (hmembers n _ _ _ hmore)
  · obtain ⟨behind, hclose, h⟩ := Option.bind_eq_some_iff.mp h
    obtain ⟨rfl, rfl⟩ := Prod.mk.inj (Option.some_inj.mp h)
    exact .last hkey hcolon (hvalue n _ _ _ hv) hclose

theorem reads_of_readers (fuel : Nat) :
    (∀ n input v rest, value (n + 1) fuel input = some (v, rest) → Reads n input v rest) ∧
    (∀ n input vs rest, items (n + 1) fuel input = some (vs, rest) → ReadsItems n input vs rest) ∧
    ∀ n input ms rest, members (n + 1) fuel input = some (ms, rest) →
      ReadsMembers n input ms rest := by
  induction fuel with
  | zero => simp [value, items, members]
  | succ fuel ih =>
      obtain ⟨hvalue, hitems, hmembers⟩ := ih
      exact ⟨fun n _ _ _ => reads_of_value_succ hitems hmembers,
        fun n _ _ _ => readsItems_of_items_succ hvalue hitems,
        fun n _ _ _ => readsMembers_of_members_succ hvalue hmembers⟩

/-- All that reading a value comes to. -/
theorem reads_of_value {v : Json} (h : value (n + 1) fuel input = some (v, rest)) :
    Reads n input v rest :=
  (reads_of_readers fuel).1 n input v rest h

theorem reads_of_string {s : String} (h : string input = some (s, rest)) :
    Reads n input (.str s) rest := by
  obtain ⟨inside, text, hopen, hbody, rfl⟩ := exists_of_string h
  exact .str hopen hbody

end

/-! ## What is read -/

theorem length_string_lt {input rest : Input} {s : String} (h : string input = some (s, rest)) :
    rest.length < input.length := by
  obtain ⟨inside, text, hopen, hbody, -⟩ := exists_of_string h
  exact Nat.lt_trans (skipString_of_stringBody hbody).1 (length_token_lt hopen)

mutual

theorem Reads.length_lt {n : Nat} {input rest : Input} {v : Json} :
    Reads n input v rest → rest.length < input.length
  | .word hmem hword => by
      have hwords : ∀ w ∈ words, 0 < w.1.length := by simp [words]
      have hpositive := hwords _ hmem
      have hlength := length_literal hword
      have hle := length_skipSpace_le input
      dsimp only at hpositive
      omega
  | .str hopen hbody =>
      Nat.lt_trans (skipString_of_stringBody hbody).1 (length_token_lt hopen)
  | .num hnumeral _ =>
      Nat.lt_of_lt_of_le (exists_of_numeral hnumeral).1 (length_skipSpace_le input)
  | .emptyArr hopen hclose | .emptyObj hopen hclose =>
      Nat.lt_trans (length_token_lt hclose) (length_token_lt hopen)
  | .arr hopen hitems => Nat.lt_trans hitems.length_lt (length_token_lt hopen)
  | .obj hopen hmembers => Nat.lt_trans hmembers.length_lt (length_token_lt hopen)

theorem ReadsItems.length_lt {n : Nat} {input rest : Input} {vs : List Json} :
    ReadsItems n input vs rest → rest.length < input.length
  | .last hv hclose => Nat.lt_trans (length_token_lt hclose) hv.length_lt
  | .cons hv hcomma hrest =>
      Nat.lt_trans hrest.length_lt (Nat.lt_trans (length_token_lt hcomma) hv.length_lt)

theorem ReadsMembers.length_lt {n : Nat} {input rest : Input} {ms : List (String × Json)} :
    ReadsMembers n input ms rest → rest.length < input.length
  | .last hkey hcolon hv hclose =>
      Nat.lt_trans (length_token_lt hclose) (Nat.lt_trans hv.length_lt
        (Nat.lt_trans (length_token_lt hcolon) (length_string_lt hkey)))
  | .cons hkey hcolon hv hcomma hrest =>
      Nat.lt_trans hrest.length_lt (Nat.lt_trans (length_token_lt hcomma)
        (Nat.lt_trans hv.length_lt (Nat.lt_trans (length_token_lt hcolon) (length_string_lt hkey))))

end

theorem Numeral.floatless_value {number : Numeral} {v : Json} (h : number.value? = some v) {m : Nat}
    (hv : Floatless m v) (n : Nat) : Floatless n v := by
  have hreal (h : number.real?.map .real = some v) : Floatless n v := by
    obtain ⟨x, -, rfl⟩ := Option.map_eq_some_iff.mp h
    nomatch hv
  have hint {i : Int} (h : some (.int i) = some v) : Floatless n v := by
    obtain rfl := Option.some_inj.mp h
    cases hv with
    | int hbits => exact .int hbits
  unfold Numeral.value? at h
  dsimp only at h
  split_ifs at h
  · exact hint h
  · exact hreal h
  · exact hint h
  · exact hreal h

mutual

/-- A value that is read nests no deeper than its reader may go. -/
theorem Reads.floatless {n m : Nat} {input rest : Input} {v : Json} :
    Reads n input v rest → Floatless m v → Floatless n v
  | .word hmem _, _ => by
      simp only [words, List.mem_cons, Prod.mk.injEq, List.not_mem_nil, or_false] at hmem
      obtain ⟨-, rfl⟩ | ⟨-, rfl⟩ | ⟨-, rfl⟩ := hmem
      · exact .null
      · exact .bool true
      · exact .bool false
  | .str .., _ => .str _
  | .num _ hvalue, hv => Numeral.floatless_value hvalue hv n
  | .emptyArr .., _ => .arr (List.forall_mem_nil _)
  | .arr _ hitems, .arr hvs => .arr fun v hv => hitems.floatless v hv (hvs v hv)
  | .emptyObj .., _ => .obj (List.forall_mem_nil _)
  | @Reads.obj _ _ _ _ ms _ hmembers, hv => by
      unfold ofMembers at hv ⊢
      cases hv with
      | obj hkept =>
          exact .obj fun m hm =>
            hmembers.floatless m ((inOrder_foldl_insert ms).2 hm) (hkept m hm)

theorem ReadsItems.floatless {n m : Nat} {input rest : Input} {vs : List Json} :
    ReadsItems n input vs rest → ∀ v ∈ vs, Floatless m v → Floatless n v
  | .last hv _, _, hmem => by
      obtain rfl := List.mem_singleton.mp hmem
      exact hv.floatless
  | .cons hv _ hrest, w, hmem => by
      obtain rfl | hmem := List.mem_cons.mp hmem
      · exact hv.floatless
      · exact hrest.floatless w hmem

theorem ReadsMembers.floatless {n m : Nat} {input rest : Input} {ms : List (String × Json)} :
    ReadsMembers n input ms rest → ∀ member ∈ ms, Floatless m member.2 → Floatless n member.2
  | .last _ _ hv _, _, hmem => by
      obtain rfl := List.mem_singleton.mp hmem
      exact hv.floatless
  | .cons _ _ hv _ hrest, member, hmem => by
      obtain rfl | hmem := List.mem_cons.mp hmem
      · exact hv.floatless
      · exact hrest.floatless member hmem

end

/-! ## Reading deeper -/

section

variable {depth fuel : Nat} {input inside rest : Input}

theorem lt_fuelFor (input : Input) : 2 * input.length < fuelFor input := by
  unfold fuelFor
  omega

theorem value_skipSpace (depth fuel : Nat) (input : Input) :
    value depth fuel (skipSpace input) = value depth fuel input := by
  cases fuel with
  | zero => rfl
  | succ fuel => simp only [value, skipSpace_skipSpace]

theorem value_of_word {word : List Char} {v : Json} (hmem : (word, v) ∈ words)
    (hword : literal word (skipSpace input) = some rest) :
    value depth (fuel + 1) input = some (v, rest) := by
  simp only [words, List.mem_cons, Prod.mk.injEq, List.not_mem_nil, or_false] at hmem
  obtain ⟨rfl, rfl⟩ | ⟨rfl, rfl⟩ | ⟨rfl, rfl⟩ := hmem <;>
    obtain ⟨after, hfirst, hafter⟩ := exists_of_literal hword <;>
      simp [value, hfirst, hafter]

theorem value_of_quoted {text : List Char} {reading : Nat} (hopen : token '"' input = some inside)
    (hbody : stringBody reading inside = some (text, rest)) :
    value depth (fuel + 1) input = some (.str (String.ofList text), rest) := by
  have hstring : string (.char '"' :: inside) = some (String.ofList text, rest) := by
    have hopen : token '"' (.char '"' :: inside) = some inside :=
      token_of_skipSpace (skipSpace_of_not_blank (by decide) inside)
    have hread := ((skipString_of_stringBody hbody).2 (inside.length + 1) (Nat.le_succ _)).1
    simp [string, hopen, hread]
  rw [← value_skipSpace, skipSpace_of_token hopen]
  exact value_of_string hstring

mutual

/-- A value that is read is read by every reader that may go as deep. -/
theorem value_of_reads {n : Nat} {input rest : Input} {v : Json} :
    Reads n input v rest → ∀ depth fuel, n < depth → 2 * input.length < fuel →
      value depth fuel input = some (v, rest)
  | .word hmem hword, _, _ + 1, _, _ => value_of_word hmem hword
  | .str hopen hbody, _, _ + 1, _, _ => value_of_quoted hopen hbody
  | .num hnumeral hvalue, _, _ + 1, _, _ => by
      obtain ⟨-, c, after, hfirst, hc⟩ := exists_of_numeral hnumeral
      rw [hfirst] at hnumeral
      rw [← value_skipSpace, hfirst, value_of_numeral hc, hnumeral]
      simp [hvalue]
  | .emptyArr hopen hclose, _, _ + 1, hdepth, _ => by
      rw [← value_skipSpace, skipSpace_of_token hopen]
      exact value_of_closed_array (by omega) hclose
  | .arr hopen hitems, depth, fuel + 1, hdepth, hfuel => by
      have hlt := length_token_lt hopen
      rw [← value_skipSpace, skipSpace_of_token hopen]
      exact value_of_items (by omega)
        (items_of_reads hitems (depth - 1) fuel (by omega) (by omega))
  | .emptyObj hopen hclose, _, _ + 1, hdepth, _ => by
      rw [← value_skipSpace, skipSpace_of_token hopen]
      exact value_of_closed_object (by omega) hclose
  | .obj hopen hmembers, depth, fuel + 1, hdepth, hfuel => by
      have hlt := length_token_lt hopen
      rw [← value_skipSpace, skipSpace_of_token hopen]
      exact value_of_members (by omega)
        (members_of_reads hmembers (depth - 1) fuel (by omega) (by omega))

theorem items_of_reads {n : Nat} {input rest : Input} {vs : List Json} :
    ReadsItems n input vs rest → ∀ depth fuel, n < depth → 2 * input.length + 1 < fuel →
      items depth fuel input = some (vs, rest)
  | .last hv hclose, depth, fuel + 1, hdepth, hfuel => by
      have hread := value_of_reads hv depth fuel hdepth (by omega)
      have hcomma : token ',' _ = none :=
        token_ne_of_skipSpace (skipSpace_of_token hclose) (by decide)
      simp [items, hread, hcomma, hclose]
  | .cons hv hcomma hrest, depth, fuel + 1, hdepth, hfuel => by
      have hlt := Nat.lt_trans (length_token_lt hcomma) hv.length_lt
      have hread := value_of_reads hv depth fuel hdepth (by omega)
      have hmore := items_of_reads hrest depth fuel hdepth (by omega)
      simp [items, hread, hcomma, hmore]

theorem members_of_reads {n : Nat} {input rest : Input} {ms : List (String × Json)} :
    ReadsMembers n input ms rest → ∀ depth fuel, n < depth → 2 * input.length + 1 < fuel →
      members depth fuel input = some (ms, rest)
  | .last hkey hcolon hv hclose, depth, fuel + 1, hdepth, hfuel => by
      have hlt := Nat.lt_trans (length_token_lt hcolon) (length_string_lt hkey)
      have hread := value_of_reads hv depth fuel hdepth (by omega)
      have hcomma : token ',' _ = none :=
        token_ne_of_skipSpace (skipSpace_of_token hclose) (by decide)
      simp [members, hkey, hcolon, hread, hcomma, hclose]
  | .cons hkey hcolon hv hcomma hrest, depth, fuel + 1, hdepth, hfuel => by
      have hlt := Nat.lt_trans (length_token_lt hcolon) (length_string_lt hkey)
      have hbehind := Nat.lt_trans (length_token_lt hcomma) hv.length_lt
      have hread := value_of_reads hv depth fuel hdepth (by omega)
      have hmore := members_of_reads hrest depth fuel hdepth (by omega)
      simp [members, hkey, hcolon, hread, hcomma, hmore]

end

end

/-! ## Skipping -/

section

variable {fuel : Nat} {frames : List Frame} {input inside rest left next : Input}

theorem token_of_readsItems {n : Nat} {vs : List Json} (h : ReadsItems n input vs rest) :
    token ']' input = none :=
  token_of_items (items_of_reads h (n + 1) _ (Nat.lt_succ_self n) (Nat.lt_succ_self _))

theorem token_of_readsMembers {n : Nat} {ms : List (String × Json)}
    (h : ReadsMembers n input ms rest) : token '\x7d' input = none :=
  token_of_members (members_of_reads h (n + 1) _ (Nat.lt_succ_self n) (Nat.lt_succ_self _))

theorem skipValue_of_word {word : List Char} {v : Json} (hmem : (word, v) ∈ words)
    (hword : literal word (skipSpace input) = some rest) :
    skipValue (fuel + 1) frames input = skipAfter fuel frames rest := by
  simp only [words, List.mem_cons, Prod.mk.injEq, List.not_mem_nil, or_false] at hmem
  obtain ⟨rfl, -⟩ | ⟨rfl, -⟩ | ⟨rfl, -⟩ := hmem <;>
    obtain ⟨after, hfirst, hafter⟩ := exists_of_literal hword <;>
      simp [skipValue, hfirst, hafter]

theorem skipValue_of_string {text : List Char} (hopen : token '"' input = some inside)
    {reading : Nat} (hbody : stringBody reading inside = some (text, rest)) :
    skipValue (fuel + 1) frames input = skipAfter fuel frames rest := by
  obtain ⟨-, hskip⟩ := skipString_of_stringBody hbody
  simp [skipValue, skipSpace_of_token hopen, (hskip _ (Nat.le_succ _)).2]

theorem skipValue_of_numeral {number : Numeral}
    (h : numeral (skipSpace input) = some (number, rest)) :
    skipValue (fuel + 1) frames input = skipAfter fuel frames rest := by
  obtain ⟨-, c, after, hfirst, hc⟩ := exists_of_numeral h
  have hothers := starts_nothing_else hc
  rw [hfirst] at h
  simp [skipValue, hfirst, hothers, h]

theorem skipKey_of_string {key : String} (hkey : string input = some (key, inside))
    (hcolon : token ':' inside = some rest) : skipKey input = some rest := by
  obtain ⟨body, text, hopen, hbody, -⟩ := exists_of_string hkey
  obtain ⟨-, hskip⟩ := skipString_of_stringBody hbody
  have hle := Nat.le_of_lt (length_token_lt hopen)
  simp [skipKey, hopen, (hskip _ hle).2, hcolon]

def Frame.mark : Frame → Char
  | array => ']'
  | object => '\x7d'

theorem skipAfter_of_close (frame : Frame) (hclose : token frame.mark left = some rest)
    (hfuel : 2 * left.length < fuel) :
    ∃ k, 2 * rest.length < k ∧ skipAfter fuel (frame :: frames) left = skipAfter k frames rest := by
  have hlt := length_token_lt hclose
  obtain ⟨k, rfl⟩ : ∃ k, fuel = k + 1 := Nat.exists_eq_add_one.mpr (Nat.zero_lt_of_lt hfuel)
  have hmark : frame.mark ≠ ',' := by cases frame <;> decide
  have hcomma := token_ne_of_skipSpace (skipSpace_of_token hclose) hmark
  refine ⟨k, by omega, ?_⟩
  cases frame <;> (rw [Frame.mark] at hclose; simp [skipAfter, hcomma, hclose])

theorem skipAfter_of_comma (hcomma : token ',' left = some next) (hfuel : 2 * left.length < fuel) :
    ∃ k, 2 * next.length < k ∧
      skipAfter fuel (.array :: frames) left = skipValue k (.array :: frames) next ∧
      skipAfter fuel (.object :: frames) left =
        (skipKey next).bind (skipValue k (.object :: frames)) := by
  have hlt := length_token_lt hcomma
  obtain ⟨k, rfl⟩ : ∃ k, fuel = k + 1 := Nat.exists_eq_add_one.mpr (Nat.zero_lt_of_lt hfuel)
  exact ⟨k, by omega, by simp [skipAfter, hcomma], by simp [skipAfter, hcomma]⟩

end

mutual

/-- Skipping goes on behind a value where reading has left off. -/
theorem Reads.skip {n : Nat} {input rest : Input} {v : Json} :
    Reads n input v rest → ∀ frames fuel, 2 * input.length < fuel →
      ∃ left, 2 * rest.length < left ∧ skipValue fuel frames input = skipAfter left frames rest
  | .word hmem hword, _, fuel + 1, hfuel => by
      have hlt := (Reads.word (n := n) hmem hword).length_lt
      exact ⟨fuel, by omega, skipValue_of_word hmem hword⟩
  | .str hopen hbody, _, fuel + 1, hfuel => by
      have hlt := (Reads.str (n := n) hopen hbody).length_lt
      exact ⟨fuel, by omega, skipValue_of_string hopen hbody⟩
  | .num hnumeral hvalue, _, fuel + 1, hfuel => by
      have hlt := (Reads.num (n := n) hnumeral hvalue).length_lt
      exact ⟨fuel, by omega, skipValue_of_numeral hnumeral⟩
  | .emptyArr hopen hclose, _, fuel + 1, hfuel => by
      have hlt := Nat.lt_trans (length_token_lt hclose) (length_token_lt hopen)
      exact ⟨fuel, by omega, by simp [skipValue, skipSpace_of_token hopen, hclose]⟩
  | .arr hopen hitems, frames, fuel + 1, hfuel => by
      have hlt := length_token_lt hopen
      have hclose := token_of_readsItems hitems
      obtain ⟨left, hleft, hskip⟩ := hitems.skip frames fuel (by omega)
      exact ⟨left, hleft, by simp [skipValue, skipSpace_of_token hopen, hclose, hskip]⟩
  | .emptyObj hopen hclose, _, fuel + 1, hfuel => by
      have hlt := Nat.lt_trans (length_token_lt hclose) (length_token_lt hopen)
      exact ⟨fuel, by omega, by simp [skipValue, skipSpace_of_token hopen, hclose]⟩
  | .obj hopen hmembers, frames, fuel + 1, hfuel => by
      have hlt := length_token_lt hopen
      have hclose := token_of_readsMembers hmembers
      obtain ⟨place, hkey, left, hleft, hskip⟩ := hmembers.skip frames fuel (by omega)
      exact ⟨left, hleft, by simp [skipValue, skipSpace_of_token hopen, hclose, hkey, hskip]⟩

theorem ReadsItems.skip {n : Nat} {input rest : Input} {vs : List Json} :
    ReadsItems n input vs rest → ∀ frames fuel, 2 * input.length < fuel →
      ∃ left, 2 * rest.length < left ∧
        skipValue fuel (.array :: frames) input = skipAfter left frames rest
  | .last hv hclose, frames, fuel, hfuel => by
      obtain ⟨left, hleft, hskip⟩ := hv.skip (.array :: frames) fuel hfuel
      obtain ⟨behind, hbehind, hclosed⟩ := skipAfter_of_close .array hclose hleft
      exact ⟨behind, hbehind, hskip.trans hclosed⟩
  | .cons hv hcomma hrest, frames, fuel, hfuel => by
      obtain ⟨left, hleft, hskip⟩ := hv.skip (.array :: frames) fuel hfuel
      obtain ⟨next, hnext, hgoes, -⟩ := skipAfter_of_comma hcomma hleft
      obtain ⟨behind, hbehind, hmore⟩ := hrest.skip frames next hnext
      exact ⟨behind, hbehind, hskip.trans (hgoes.trans hmore)⟩

theorem ReadsMembers.skip {n : Nat} {input rest : Input} {ms : List (String × Json)} :
    ReadsMembers n input ms rest → ∀ frames fuel, 2 * input.length < fuel →
      ∃ place, skipKey input = some place ∧ ∃ left, 2 * rest.length < left ∧
        skipValue fuel (.object :: frames) place = skipAfter left frames rest
  | .last hkey hcolon hv hclose, frames, fuel, hfuel => by
      have hplace := Nat.lt_trans (length_token_lt hcolon) (length_string_lt hkey)
      obtain ⟨left, hleft, hskip⟩ := hv.skip (.object :: frames) fuel (by omega)
      obtain ⟨behind, hbehind, hclosed⟩ := skipAfter_of_close .object hclose hleft
      exact ⟨_, skipKey_of_string hkey hcolon, behind, hbehind, hskip.trans hclosed⟩
  | .cons hkey hcolon hv hcomma hrest, frames, fuel, hfuel => by
      have hplace := Nat.lt_trans (length_token_lt hcolon) (length_string_lt hkey)
      obtain ⟨left, hleft, hskip⟩ := hv.skip (.object :: frames) fuel (by omega)
      obtain ⟨less, hless, -, hgoes⟩ := skipAfter_of_comma hcomma hleft
      obtain ⟨next, hnext, behind, hbehind, hmore⟩ := hrest.skip frames less hless
      rw [hnext] at hgoes
      exact ⟨_, skipKey_of_string hkey hcolon, behind, hbehind, hskip.trans (hgoes.trans hmore)⟩

end

/-- A value that is kept ends where it would end if it were skipped. -/
theorem skip_of_reads {n : Nat} {input rest : Input} {v : Json} (h : Reads n input v rest) :
    skip input = some rest := by
  obtain ⟨left, -, hskip⟩ := h.skip [] (fuelFor input) (lt_fuelFor input)
  rw [skip, hskip]
  cases left <;> rfl

end CecGateway.Json
