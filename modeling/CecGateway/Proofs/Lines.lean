import CecGateway.Text.Lines

/-!
# How a stream falls into lines

Every line but the last is ended by its only newline; the last may have none, but is not empty.
There is just one way to cut a stream like this, and `splitLines` finds it.
-/

namespace CecGateway

inductive InLines : List UInt8 → List (List UInt8) → Prop
  | nil : InLines [] []
  | unterminated {body : List UInt8} (hnonempty : body ≠ []) (hbody : 10 ∉ body) :
      InLines body [body]
  | terminated {body rest : List UInt8} {lines : List (List UInt8)} (hbody : 10 ∉ body)
      (hrest : InLines rest lines) : InLines (body ++ 10 :: rest) ((body ++ [10]) :: lines)

theorem splitLines_of_not_mem {body : List UInt8} (hnonempty : body ≠ []) (hbody : 10 ∉ body) :
    splitLines body = [body] := by
  induction body with
  | nil => contradiction
  | cons b rest ih =>
      simp only [List.mem_cons, not_or] at hbody
      rw [splitLines, if_neg (Ne.symm hbody.1)]
      by_cases hrest : rest = []
      · simp [hrest, splitLines]
      · rw [ih hrest hbody.2]

theorem splitLines_append_newline {body : List UInt8} (hbody : 10 ∉ body) (rest : List UInt8) :
    splitLines (body ++ 10 :: rest) = (body ++ [10]) :: splitLines rest := by
  induction body with
  | nil => simp [splitLines]
  | cons b body ih =>
      simp only [List.mem_cons, not_or] at hbody
      rw [List.cons_append, splitLines, if_neg (Ne.symm hbody.1), ih hbody.2]
      rfl

/-- A byte in front of a stream goes to its first line. -/
theorem InLines.cons {b : UInt8} (hb : b ≠ 10) {bytes : List UInt8} {lines : List (List UInt8)} :
    InLines bytes lines →
      InLines (b :: bytes) (match lines with
        | [] => [[b]]
        | line :: lines => (b :: line) :: lines) := by
  intro h
  cases h with
  | nil => exact .unterminated (List.cons_ne_nil _ _) (by simpa using Ne.symm hb)
  | unterminated hnonempty hbody =>
      exact .unterminated (List.cons_ne_nil _ _) (by simp [Ne.symm hb, hbody])
  | @terminated body rest lines hbody hrest =>
      have hlonger : 10 ∉ b :: body := by simp [Ne.symm hb, hbody]
      exact .terminated hlonger hrest

theorem inLines_splitLines (bytes : List UInt8) : InLines bytes (splitLines bytes) := by
  induction bytes with
  | nil => exact .nil
  | cons b rest ih =>
      rw [splitLines]
      split
      · rename_i hb
        have hnone : (10 : UInt8) ∉ [] := List.not_mem_nil
        rw [hb]
        exact .terminated hnone ih
      · rename_i hb
        exact .cons hb ih

/-- Behind the end of a line, a stream falls into lines as if it began there. -/
theorem splitLines_append {bytes : List UInt8} (hends : bytes = [] ∨ bytes.getLast? = some 10)
    (rest : List UInt8) : splitLines (bytes ++ rest) = splitLines bytes ++ splitLines rest := by
  have hlines := inLines_splitLines bytes
  generalize splitLines bytes = lines at hlines
  induction hlines with
  | nil => rfl
  | unterminated hnonempty hbody =>
      obtain hempty | hlast := hends
      · exact absurd hempty hnonempty
      · exact absurd (List.mem_of_getLast? hlast) hbody
  | @terminated body later lines hbody _ ih =>
      have hlater : later = [] ∨ later.getLast? = some 10 := by
        cases later with
        | nil => exact .inl rfl
        | cons b later => simpa [List.getLast?_cons_cons] using hends
      rw [List.append_assoc, List.cons_append, splitLines_append_newline hbody, ih hlater]
      rfl

theorem inLines_iff {bytes : List UInt8} {lines : List (List UInt8)} :
    InLines bytes lines ↔ lines = splitLines bytes := by
  constructor
  · intro h
    induction h with
    | nil => rfl
    | unterminated hnonempty hbody => rw [splitLines_of_not_mem hnonempty hbody]
    | terminated hbody _ ih => rw [splitLines_append_newline hbody, ih]
  · rintro rfl
    exact inLines_splitLines bytes

end CecGateway
