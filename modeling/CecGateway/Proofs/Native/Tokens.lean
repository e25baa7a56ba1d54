import CecGateway.Proofs.Native.Building
import CecGateway.Proofs.RequestLine

/-!
# A request line falls into tokens

Between single blanks, a request line holds the name of the command and then a token for each of
its parameters. The only equals sign of a token ends the name of the parameter, and behind it
stands the value with its escapes, which may be undone at one go or one after the other, as long as
that of the percent sign comes last (`request_line_falls_into_tokens`).
-/

namespace CecGateway

namespace NativeCommand

/-! ## One escape after the other -/

/-- The text with every occurrence of three characters, from the left, replaced by one. -/
def replaceAll (code : List Char) (c : Char) : List Char → List Char
  | x :: y :: z :: rest =>
    if [x, y, z] = code then c :: replaceAll code c rest
    else x :: replaceAll code c (y :: z :: rest)
  | rest => rest

/-- Undoes the escapes one after the other, that of the percent sign last. -/
def unescapeInTurn (text : List Char) : List Char :=
  let unblanked := replaceAll ['%', '2', '0'] ' ' text
  let unequalled := replaceAll ['%', '3', 'D'] '=' unblanked
  replaceAll ['%', '2', '5'] '%' unequalled

/-- The characters that are escaped. -/
def specials : List Char := [' ', '=', '%']

/-- A text in which some of the escapes are left. -/
def escapeOnly (left : List Char) (c : Char) : List Char := if c ∈ left then escape c else [c]

variable {c d : Char} {left : List Char}

theorem exists_escape (hc : c ∈ specials) :
    ∃ x y, escape c = ['%', x, y] ∧ x ≠ '%' ∧ y ≠ '%' := by
  simp only [specials, List.mem_cons, List.not_mem_nil, or_false] at hc
  obtain rfl | rfl | rfl := hc
  · exact ⟨'2', '0', rfl, by decide, by decide⟩
  · exact ⟨'3', 'D', rfl, by decide, by decide⟩
  · exact ⟨'2', '5', rfl, by decide, by decide⟩

theorem escape_injective (h : escape c = escape d) : c = d := by
  have hc := unescape_escape c []
  rw [h, unescape_escape] at hc
  exact (List.cons.inj hc).1.symm

theorem escape_eq_of_not_mem (hc : c ∉ specials) : escape c = [c] := by
  simp only [specials, List.mem_cons, List.not_mem_nil, or_false, not_or] at hc
  rw [escape, if_neg hc.1, if_neg hc.2.1, if_neg hc.2.2]

theorem replaceAll_escape (hd : d ∈ specials) (rest : List Char) :
    replaceAll (escape d) d (escape d ++ rest) = d :: replaceAll (escape d) d rest := by
  obtain ⟨x, y, hescape, -, -⟩ := exists_escape hd
  simp [hescape, replaceAll]

theorem replaceAll_cons_of_ne (hd : d ∈ specials) (hc : c ≠ '%') (rest : List Char) :
    replaceAll (escape d) d (c :: rest) = c :: replaceAll (escape d) d rest := by
  obtain ⟨x, y, hescape, -, -⟩ := exists_escape hd
  match rest with
  | [] => rfl
  | [_] => rfl
  | _ :: _ :: _ => simp [hescape, replaceAll, hc]

/-- The code of one escape does not begin inside another. -/
theorem replaceAll_other_escape (hd : d ∈ specials) (hc : c ∈ specials) (hne : c ≠ d)
    (rest : List Char) :
    replaceAll (escape d) d (escape c ++ rest) = escape c ++ replaceAll (escape d) d rest := by
  obtain ⟨x, y, hescape, hx, hy⟩ := exists_escape hc
  have hother : ['%', x, y] ≠ escape d := fun h => hne (escape_injective (hescape.trans h))
  rw [hescape, List.cons_append, List.cons_append, List.singleton_append, replaceAll,
    if_neg hother, replaceAll_cons_of_ne hd hx, replaceAll_cons_of_ne hd hy]
  rfl

/-- As long as the percent sign is escaped, each occurrence of a code is an escape. -/
theorem replaceAll_escapeOnly (hd : d ∈ specials) (hleft : left ⊆ specials) (hpercent : '%' ∈ left)
    (c : Char) (rest : List Char) :
    replaceAll (escape d) d (escapeOnly left c ++ rest) =
      escapeOnly (left.filter (· ≠ d)) c ++ replaceAll (escape d) d rest := by
  by_cases hc : c ∈ left
  · by_cases hsame : c = d
    · subst hsame
      rw [escapeOnly, if_pos hc, replaceAll_escape hd]
      simp [escapeOnly]
    · have hkept : c ∈ left.filter (· ≠ d) := by simp [hc, hsame]
      rw [escapeOnly, if_pos hc, escapeOnly, if_pos hkept,
        replaceAll_other_escape hd (hleft hc) hsame]
  · -- a character that stands for itself is no percent sign, so no code begins here
    have hne : c ≠ '%' := fun h => hc (h ▸ hpercent)
    have hgone : c ∉ left.filter (· ≠ d) := by simp [hc]
    rw [escapeOnly, if_neg hc, escapeOnly, if_neg hgone, List.singleton_append,
      replaceAll_cons_of_ne hd hne, List.singleton_append]

theorem replaceAll_flatMap_escapeOnly (hd : d ∈ specials) (hleft : left ⊆ specials)
    (hpercent : '%' ∈ left) (text : List Char) :
    replaceAll (escape d) d (text.flatMap (escapeOnly left)) =
      text.flatMap (escapeOnly (left.filter (· ≠ d))) := by
  induction text with
  | nil => rfl
  | cons c text ih =>
      rw [List.flatMap_cons, replaceAll_escapeOnly hd hleft hpercent, ih, List.flatMap_cons]

theorem escapeOnly_specials : escapeOnly specials = escape := by
  funext c
  by_cases hc : c ∈ specials
  · rw [escapeOnly, if_pos hc]
  · rw [escapeOnly, if_neg hc, escape_eq_of_not_mem hc]

theorem unescapeInTurn_flatMap_escape (text : List Char) :
    unescapeInTurn (text.flatMap escape) = text := by
  have hblank : replaceAll ['%', '2', '0'] ' ' (text.flatMap (escapeOnly specials)) =
      text.flatMap (escapeOnly ['=', '%']) :=
    replaceAll_flatMap_escapeOnly (d := ' ') (by decide) (by decide) (by decide) text
  have hequals : replaceAll ['%', '3', 'D'] '=' (text.flatMap (escapeOnly ['=', '%'])) =
      text.flatMap (escapeOnly ['%']) :=
    replaceAll_flatMap_escapeOnly (d := '=') (by decide) (by decide) (by decide) text
  have hpercent : replaceAll ['%', '2', '5'] '%' (text.flatMap (escapeOnly ['%'])) =
      text.flatMap (escapeOnly []) :=
    replaceAll_flatMap_escapeOnly (d := '%') (by decide) (by decide) (by decide) text
  have hnone : escapeOnly [] = ([·]) := by
    funext c
    simp [escapeOnly]
  rw [← escapeOnly_specials, unescapeInTurn, hblank, hequals, hpercent, hnone,
    List.flatMap_singleton']

/-! ## Tokens -/

/-- A token that gives the name and the value of a parameter. -/
structure Gives (token : List Char) (p : Parameter) : Prop where
  equals_once : token.count '=' = 1
  splits : ∃ written, token.splitOn '=' = [p.name.toList, written] ∧
    unescape written = p.value.toList ∧ unescapeInTurn written = p.value.toList

theorem gives_parameterPart {p : Parameter} (hp : IsWord p.name) : Gives (parameterPart p) p := by
  have hname : '=' ∉ p.name.toList := hp.not_mem (by decide)
  have hvalue := equals_not_mem_flatMap_escape p.value.toList
  refine ⟨?_, p.value.toList.flatMap escape, splitOn_parameterPart hp, unescape_flatMap_escape _,
    unescapeInTurn_flatMap_escape _⟩
  rw [parameterPart, List.count_append, List.count_cons_self, List.count_eq_zero.mpr hname,
    List.count_eq_zero.mpr hvalue]

end NativeCommand

/-- However a native command has been built, its request line, cut at single blanks, is its name
and one token for each parameter, in order, which gives the parameter's name and value. No other
command has this line. -/
theorem request_line_falls_into_tokens (command : NativeCommand) (hbuilt : command.IsBuilt) :
    (∃ tokens, command.requestLine.toList.splitOn ' ' = command.name.toList :: tokens ∧
      List.Forall₂ NativeCommand.Gives tokens command.parameters) ∧
    ∀ other : NativeCommand, other.IsBuilt →
      (other.requestLine = command.requestLine ↔ other = command) := by
  have hfits := NativeCommand.isBuilt_iff_fits.mp hbuilt
  refine ⟨⟨command.parameters.map NativeCommand.parameterPart, ?_, ?_⟩, fun other hother => ?_⟩
  · rw [NativeCommand.requestLine, String.toList_ofList, NativeCommand.splitOn_requestChars hfits]
  · rw [List.forall₂_map_left_iff, List.forall₂_same]
    exact fun p hp => NativeCommand.gives_parameterPart (hfits.parameters p hp).isWord_name
  · constructor
    · exact (NativeCommand.isBuilt_iff_fits.mp hother).eq_of_requestLine_eq hfits
    · exact fun h => h ▸ rfl

/-- A value may hold what looks like an escape, and a name may be empty or used twice. -/
theorem hostile_values_fall_into_tokens :
    let command : NativeCommand :=
      ⟨"osd-display", [⟨"text", "%20 = %%3D"⟩, ⟨"", ""⟩, ⟨"text", "a\u2003b"⟩]⟩
    command.IsBuilt ∧
      command.requestLine = "osd-display text=%2520%20%3D%20%25%253D = text=a\u2003b" ∧
      ∃ tokens, command.requestLine.toList.splitOn ' ' = "osd-display".toList :: tokens ∧
        List.Forall₂ NativeCommand.Gives tokens command.parameters := by
  intro command
  have hbuilt : command.IsBuilt :=
    NativeCommand.isBuilt_iff_fits.mpr (NativeCommand.fits_iff.mpr (by decide))
  obtain ⟨htokens, -⟩ := request_line_falls_into_tokens command hbuilt
  exact ⟨hbuilt, by decide, htokens⟩

end CecGateway
