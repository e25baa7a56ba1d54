import CecGateway.Proofs.Lines
import CecGateway.Proofs.Text.Utf8
import Mathlib.Data.List.DropRight

/-!
# Lines arrive as they were printed

A stream of bytes comes in chunks that may end anywhere, also inside a character or between a
carriage return and its newline. The buffer it comes into falls into the lines of the whole stream,
and only then is the end of each line taken off and its text decoded. So what was printed line by
line is what is read, and bytes that are no text stay in their line (`printed_lines_arrive`).
-/

namespace CecGateway

/-! ## The buffer -/

namespace LineBuffer

/-- The buffer after these bytes: whatever may follow them, the stream falls into the lines that
are complete and those of what is pending together with the rest. -/
structure Holds (buffer : LineBuffer) (bytes : List UInt8) : Prop where
  newline_not_mem : 10 ∉ buffer.pending
  splitLines_append : ∀ rest, splitLines (bytes ++ rest) =
    buffer.complete.reverse ++ splitLines (buffer.pending.reverse ++ rest)

variable {buffer : LineBuffer} {bytes : List UInt8}

theorem holds_nil : ({} : LineBuffer).Holds [] := ⟨List.not_mem_nil, fun _ => rfl⟩

theorem Holds.push (h : buffer.Holds bytes) (b : UInt8) : (buffer.push b).Holds (bytes ++ [b]) := by
  have hpending : 10 ∉ buffer.pending.reverse := by simpa using h.newline_not_mem
  by_cases hb : b = 10
  · -- the newline completes the line that was pending
    subst hb
    refine ⟨List.not_mem_nil, fun rest => ?_⟩
    rw [List.append_assoc, h.splitLines_append, List.singleton_append,
      splitLines_append_newline hpending]
    simp [LineBuffer.push]
  · rw [LineBuffer.push, if_neg hb]
    refine ⟨?_, fun rest => ?_⟩
    · simpa [Ne.symm hb] using h.newline_not_mem
    · rw [List.append_assoc, h.splitLines_append]
      simp

theorem Holds.feed (h : buffer.Holds bytes) (chunk : List UInt8) :
    (buffer.feed chunk).Holds (bytes ++ chunk) := by
  induction chunk generalizing buffer bytes with
  | nil => simpa [LineBuffer.feed] using h
  | cons b chunk ih =>
      have hrest := ih (h.push b)
      rwa [List.append_assoc, List.singleton_append] at hrest

theorem Holds.feedAll (h : buffer.Holds bytes) (chunks : List (List UInt8)) :
    (chunks.foldl LineBuffer.feed buffer).Holds (bytes ++ chunks.flatten) := by
  induction chunks generalizing buffer bytes with
  | nil => simpa using h
  | cons chunk chunks ih =>
      have hrest := ih (h.feed chunk)
      rwa [List.append_assoc, ← List.flatten_cons] at hrest

theorem Holds.lines_eq (h : buffer.Holds bytes) : buffer.lines = splitLines bytes := by
  have hlines := h.splitLines_append []
  rw [List.append_nil, List.append_nil] at hlines
  rw [hlines, lines]
  cases hpending : buffer.pending with
  | nil => rfl
  | cons b pending =>
      have hbody : 10 ∉ (b :: pending).reverse := by
        rw [← hpending]
        simpa using h.newline_not_mem
      rw [splitLines_of_not_mem (by simp) hbody]
      rfl

end LineBuffer

/-- However a stream is cut into chunks, its lines are read. -/
theorem linesOfChunks_eq (chunks : List (List UInt8)) :
    linesOfChunks chunks = (splitLines chunks.flatten).map lineText := by
  rw [linesOfChunks, (LineBuffer.holds_nil.feedAll chunks).lines_eq, List.nil_append]

/-! ## How many lines there are -/

theorem rtakeWhile_append_cons {α : Type} {p : α → Bool} {a : α} (ha : p a = false)
    (before rest : List α) : (before ++ a :: rest).rtakeWhile p = rest.rtakeWhile p := by
  induction rest using List.reverseRecOn with
  | nil => rw [List.rtakeWhile_concat, ha, List.rtakeWhile_nil]; rfl
  | append_singleton rest b ih =>
      rw [← List.cons_append, ← List.append_assoc, List.rtakeWhile_concat, ih,
        List.rtakeWhile_concat]

/-- One line for each newline, and one for what stands behind the last. -/
theorem InLines.length_eq {bytes : List UInt8} {lines : List (List UInt8)}
    (h : InLines bytes lines) :
    lines.length = bytes.count 10 + if bytes.rtakeWhile (· ≠ 10) = [] then 0 else 1 := by
  induction h with
  | nil => rfl
  | @unterminated body hnonempty hbody =>
      have hrest : body.rtakeWhile (· ≠ 10) = body := by
        rw [List.rtakeWhile_eq_self_iff]
        intro b hb
        exact decide_eq_true fun h => hbody (h ▸ hb)
      rw [hrest, if_neg hnonempty, List.count_eq_zero.mpr hbody]
      rfl
  | terminated hbody hrest ih =>
      rw [List.length_cons, ih, List.count_append, List.count_cons_self,
        List.count_eq_zero.mpr hbody, rtakeWhile_append_cons (by decide)]
      omega

/-! ## The text of a line -/

theorem withoutLast_concat (b : UInt8) (line : List UInt8) :
    withoutLast b (line ++ [b]) = line := by
  simp [withoutLast]

theorem withoutLast_of_ne {b : UInt8} {line : List UInt8} (h : line.getLast? ≠ some b) :
    withoutLast b line = line := if_neg h

/-- A text that can be told from the end of its line. -/
structure StandsAlone (text : String) : Prop where
  newline_not_mem : '\n' ∉ text.toList
  last_ne : text.toList.getLast? ≠ some '\r'

variable {text : String}

theorem StandsAlone.getLast?_bytes_ne (h : StandsAlone text) :
    (Utf8.bytes text).getLast? ≠ some 13 := by
  intro hlast
  obtain ⟨c, hc, hcode⟩ := Utf8.exists_of_getLast?_encode (by decide) hlast
  have hreturn : c = '\r' := Char.toNat_inj.mp hcode
  exact h.last_ne (hreturn ▸ hc)

theorem StandsAlone.lineText_bytes (h : StandsAlone text) : lineText (Utf8.bytes text) = text := by
  have hnewline : (Utf8.bytes text).getLast? ≠ some 10 := fun hlast =>
    Utf8.newline_not_mem_bytes h.newline_not_mem (List.mem_of_getLast? hlast)
  rw [lineText, withoutLast_of_ne hnewline, withoutLast_of_ne h.getLast?_bytes_ne,
    Utf8.lenient_bytes]

theorem StandsAlone.lineText_newline (h : StandsAlone text) :
    lineText (Utf8.bytes text ++ [10]) = text := by
  rw [lineText, withoutLast_concat, withoutLast_of_ne h.getLast?_bytes_ne, Utf8.lenient_bytes]

theorem lineText_return_newline (text : String) :
    lineText (Utf8.bytes text ++ [13] ++ [10]) = text := by
  rw [lineText, withoutLast_concat, withoutLast_concat, Utf8.lenient_bytes]

/-! ## Printed lines -/

/-- Lines as they are printed. Each ends with a newline, and a carriage return before it or not; the
last may have no end, unless it is empty. -/
inductive Prints : List String → List UInt8 → Prop
  | nil : Prints [] []
  | unterminated {text : String} (hnonempty : text ≠ "") : Prints [text] (Utf8.bytes text)
  | newline {text : String} {lines : List String} {rest : List UInt8} (hrest : Prints lines rest) :
      Prints (text :: lines) (Utf8.bytes text ++ 10 :: rest)
  | return_newline {text : String} {lines : List String} {rest : List UInt8}
      (hrest : Prints lines rest) : Prints (text :: lines) (Utf8.bytes text ++ 13 :: 10 :: rest)

/-- What has been printed falls into lines, whose texts have been printed. -/
theorem Prints.exists_inLines {lines : List String} {bytes : List UInt8} (h : Prints lines bytes)
    (hlines : ∀ text ∈ lines, StandsAlone text) :
    ∃ pieces, InLines bytes pieces ∧ pieces.map lineText = lines := by
  induction h with
  | nil => exact ⟨[], .nil, rfl⟩
  | unterminated hnonempty =>
      have htext := hlines _ (List.mem_singleton_self _)
      refine ⟨_, .unterminated (Utf8.bytes_ne_nil hnonempty)
        (Utf8.newline_not_mem_bytes htext.newline_not_mem), ?_⟩
      rw [List.map_singleton, htext.lineText_bytes]
  | newline hrest ih =>
      obtain ⟨htext, hlines⟩ := List.forall_mem_cons.mp hlines
      obtain ⟨pieces, hpieces, htexts⟩ := ih hlines
      refine ⟨_, .terminated (Utf8.newline_not_mem_bytes htext.newline_not_mem) hpieces, ?_⟩
      rw [List.map_cons, htext.lineText_newline, htexts]
  | @return_newline text lines rest hrest ih =>
      obtain ⟨htext, hlines⟩ := List.forall_mem_cons.mp hlines
      obtain ⟨pieces, hpieces, htexts⟩ := ih hlines
      have hbody : 10 ∉ Utf8.bytes text ++ [13] := by
        simpa using Utf8.newline_not_mem_bytes htext.newline_not_mem
      have hcut := InLines.terminated hbody hpieces
      rw [List.append_assoc, List.singleton_append] at hcut
      refine ⟨_, hcut, ?_⟩
      rw [List.map_cons, lineText_return_newline, htexts]

/-- Whatever chunks a stream arrives in, if it is lines as they are printed, these lines are read.
In any case one line is read for each newline, and one for what stands behind the last, and each is
the text of its own bytes. -/
theorem printed_lines_arrive (chunks : List (List UInt8)) :
    (∀ lines, Prints lines chunks.flatten → (∀ text ∈ lines, StandsAlone text) →
      linesOfChunks chunks = lines) ∧
    (linesOfChunks chunks).length =
      chunks.flatten.count 10 + (if chunks.flatten.rtakeWhile (· ≠ 10) = [] then 0 else 1) ∧
    ∃ pieces, InLines chunks.flatten pieces ∧ linesOfChunks chunks = pieces.map lineText := by
  have hlines := inLines_splitLines chunks.flatten
  refine ⟨fun lines hprints halone => ?_, ?_, _, hlines, linesOfChunks_eq chunks⟩
  · obtain ⟨pieces, hpieces, htexts⟩ := hprints.exists_inLines halone
    rw [linesOfChunks_eq, ← inLines_iff.mp hpieces, htexts]
  · rw [linesOfChunks_eq, List.length_map, hlines.length_eq]

/-- A chunk may end inside a character, an empty line is a line, and a carriage return inside a line
is part of it. -/
theorem ragged_lines_arrive :
    let lines := ["Café", "", "a\rb", "end"]
    let bytes := Utf8.bytes "Café" ++ 13 :: 10 :: (Utf8.bytes "" ++ 10 ::
      (Utf8.bytes "a\rb" ++ 13 :: 10 :: Utf8.bytes "end"))
    Prints lines bytes ∧ (∀ text ∈ lines, StandsAlone text) ∧
      linesOfChunks [bytes.take 4, [], bytes.drop 4] = lines := by
  intro lines bytes
  have hprints : Prints lines bytes :=
    .return_newline (.newline (.return_newline (.unterminated (by decide))))
  have halone : ∀ text ∈ lines, StandsAlone text := by
    have hall : ∀ text ∈ lines, '\n' ∉ text.toList ∧ text.toList.getLast? ≠ some '\r' := by decide
    exact fun text htext => ⟨(hall text htext).1, (hall text htext).2⟩
  have hflatten : [bytes.take 4, [], bytes.drop 4].flatten = bytes := by
    simp [List.take_append_drop]
  obtain ⟨harrive, -⟩ := printed_lines_arrive [bytes.take 4, [], bytes.drop 4]
  exact ⟨hprints, halone, harrive lines (hflatten.symm ▸ hprints) halone⟩

/-- Bytes that are no text are replaced where they stand. -/
example : linesOfChunks [[67, 0xE9], [10, 0x80, 10]] = ["C\uFFFD", "\uFFFD"] := by decide

end CecGateway
