import CecGateway.Proofs.Serving.Provenance
import Mathlib.Data.List.Induction

/-!
# Writing in strokes

An answer is written in strokes: the pieces of its text, a newline and a flush. The first stroke
that the sink refuses ends the writing. Where it falls inside an answer decides which error it is,
and whole lines come out as if they were written at once (`Writing.agrees_foldl`).
-/

namespace CecGateway

inductive Stroke
  | piece (text : String)
  | newline
  | flush
  deriving DecidableEq, Repr

namespace Stroke

def size : Stroke → Nat
  | piece text => text.utf8ByteSize
  | newline => 1
  | flush => 0

def totalSize (strokes : List Stroke) : Nat := (strokes.map size).sum

theorem totalSize_append (strokes later : List Stroke) :
    totalSize (strokes ++ later) = totalSize strokes + totalSize later := by
  simp [totalSize]

theorem totalSize_le_append (strokes later : List Stroke) :
    totalSize strokes ≤ totalSize (strokes ++ later) := by
  rw [totalSize_append]
  exact Nat.le_add_right _ _

/-- The whole lines that strokes make; `line` is what stands before them. -/
def linesFrom (line : String) : List Stroke → List String
  | [] => []
  | piece text :: rest => linesFrom (line ++ text) rest
  | newline :: rest => line :: linesFrom "" rest
  | flush :: rest => linesFrom line rest

def lines (strokes : List Stroke) : List String := linesFrom "" strokes

theorem linesFrom_pieces (line : String) (pieces : List String) (rest : List Stroke) :
    linesFrom line (pieces.map piece ++ rest) = linesFrom (line ++ String.join pieces) rest := by
  induction pieces generalizing line with
  | nil => simp
  | cons text pieces ih =>
      rw [List.map_cons, List.cons_append, linesFrom, ih, String.join_cons, String.append_assoc]

theorem linesFrom_prefix (line : String) (strokes later : List Stroke) :
    linesFrom line strokes <+: linesFrom line (strokes ++ later) := by
  induction strokes generalizing line with
  | nil => exact List.nil_prefix
  | cons stroke rest ih =>
      cases stroke with
      | piece text => exact ih (line ++ text)
      | newline => exact (List.prefix_cons_inj line).mpr (ih "")
      | flush => exact ih line

end Stroke

/-- A way of cutting texts into the pieces that are written one after another. -/
structure Cut where
  pieces : String → List String
  join_pieces : ∀ text, String.join (pieces text) = text

namespace Cut

variable (cut : Cut)

def strokes (text : String) : List Stroke := (cut.pieces text).map .piece ++ [.newline, .flush]

theorem linesFrom_newline (line text : String) (rest : List Stroke) :
    Stroke.linesFrom line ((cut.pieces text).map .piece ++ .newline :: rest) =
      (line ++ text) :: Stroke.linesFrom "" rest := by
  rw [Stroke.linesFrom_pieces, cut.join_pieces]
  rfl

theorem linesFrom_strokes (line text : String) (rest : List Stroke) :
    Stroke.linesFrom line (cut.strokes text ++ rest) =
      (line ++ text) :: Stroke.linesFrom "" rest := by
  rw [strokes, List.append_assoc]
  exact cut.linesFrom_newline line text (.flush :: rest)

theorem lines_strokes (texts : List String) (rest : List Stroke) :
    Stroke.lines (texts.flatMap cut.strokes ++ rest) = texts ++ Stroke.lines rest := by
  induction texts with
  | nil => rfl
  | cons text texts ih =>
      rw [List.flatMap_cons, List.append_assoc, Stroke.lines, cut.linesFrom_strokes,
        String.empty_append, List.cons_append]
      exact congrArg (text :: ·) ih

theorem lines_newline (texts : List String) (text : String) (rest : List Stroke) :
    Stroke.lines ((texts.flatMap cut.strokes ++ (cut.pieces text).map .piece) ++
      .newline :: rest) = texts ++ text :: Stroke.linesFrom "" rest := by
  rw [List.append_assoc, cut.lines_strokes, Stroke.lines, cut.linesFrom_newline,
    String.empty_append]

theorem totalSize_pieces (text : String) :
    Stroke.totalSize ((cut.pieces text).map .piece) = text.utf8ByteSize := by
  have hjoin (pieces : List String) :
      Stroke.totalSize (pieces.map .piece) = (String.join pieces).utf8ByteSize := by
    induction pieces with
    | nil => rfl
    | cons piece rest ih =>
        rw [String.join_cons, String.utf8ByteSize_append, ← ih]
        rfl
  rw [hjoin, cut.join_pieces]

end Cut

namespace Sink

variable {sink : Sink} {bytes more : Nat} {reason : String}

/-- The error of a sink that is to take more bytes than it can. -/
def overrun? (sink : Sink) (bytes : Nat) : Option String :=
  (sink.limit?.filter (·.1 < bytes)).map (·.2)

/-- The error with which the sink refuses a stroke after so many bytes, if it does. -/
def refusal? (sink : Sink) (bytes : Nat) (stroke : Stroke) : Option SessionError :=
  match stroke with
  | .piece text =>
    if sink.aborts then some .writerAborted
    else (sink.overrun? (bytes + text.utf8ByteSize)).map .unserialized
  | .newline =>
    if sink.aborts then some .writerAborted else (sink.overrun? (bytes + 1)).map .io
  | .flush => sink.flushError?.map .io

theorem overrun?_mono (h : sink.overrun? bytes = some reason) (hle : bytes ≤ more) :
    sink.overrun? more = some reason := by
  obtain ⟨⟨limit, other⟩, hfilter, rfl⟩ := Option.map_eq_some_iff.mp h
  obtain ⟨hlimit, hover⟩ := Option.filter_eq_some_iff.mp hfilter
  have hlt : limit < bytes := by simpa using hover
  have hmore : limit < more := Nat.lt_of_lt_of_le hlt hle
  simp [overrun?, hlimit, Option.filter_some, hmore]

theorem overrun?_eq_none (h : sink.overrun? more = none) (hle : bytes ≤ more) :
    sink.overrun? bytes = none := by
  cases hbytes : sink.overrun? bytes with
  | none => rfl
  | some reason =>
      rw [overrun?_mono hbytes hle] at h
      contradiction

theorem overrun?_zero (sink : Sink) : sink.overrun? 0 = none := by
  simp [overrun?]

theorem aborts_of_refusal {stroke : Stroke}
    (h : sink.refusal? bytes stroke = some .writerAborted) : sink.aborts = true := by
  by_contra haborts
  cases stroke <;> simp [refusal?, haborts] at h

end Sink

/-- The strokes that have been made, and the error that ended them. -/
structure Writing where
  done : List Stroke := []
  error? : Option SessionError := none

/-- None of the strokes is refused after those before it. -/
def Sink.Takes (sink : Sink) (strokes : List Stroke) : Prop :=
  ∀ before stroke, before ++ [stroke] <+: strokes →
    sink.refusal? (Stroke.totalSize before) stroke = none

theorem Sink.Takes.concat {sink : Sink} {strokes : List Stroke} (h : sink.Takes strokes)
    {stroke : Stroke} (htaken : sink.refusal? (Stroke.totalSize strokes) stroke = none) :
    sink.Takes (strokes ++ [stroke]) := by
  intro before other hearly
  rcases List.prefix_concat_iff.mp hearly with hwhole | hearlier
  · obtain ⟨rfl, rfl⟩ := List.append_singleton_inj.mp hwhole
    exact htaken
  · exact h before other hearlier

/-- What comes of strokes: all of them are made, or those before the first that is refused. -/
inductive Sink.Ends (sink : Sink) (strokes : List Stroke) : Writing → Prop
  | whole (htakes : sink.Takes strokes) : Ends sink strokes ⟨strokes, none⟩
  | refused {done : List Stroke} {stroke : Stroke} {error : SessionError}
      (hmade : done ++ [stroke] <+: strokes) (htakes : sink.Takes done)
      (hrefused : sink.refusal? (Stroke.totalSize done) stroke = some error) :
      Ends sink strokes ⟨done, some error⟩

theorem Output.write_eq {sink : Sink} {o : Output} (herror : o.error? = none)
    (haborts : sink.aborts = false) (text : String) :
    o.write sink text =
      match sink.overrun? (o.bytes + text.utf8ByteSize),
        sink.overrun? (o.bytes + text.utf8ByteSize + 1) with
      | some reason, _ => { o with error? := some (.unserialized reason) }
      | none, some reason => { o with error? := some (.io reason) }
      | none, none => ⟨o.lines ++ [text], o.bytes + text.utf8ByteSize + 1,
          sink.flushError?.map .io⟩ := by
  simp only [write, herror, haborts, Sink.overrun?, Option.isSome_none, Bool.false_eq_true, if_false]
  cases sink.limit?.filter (·.1 < o.bytes + text.utf8ByteSize) <;>
    cases sink.limit?.filter (·.1 < o.bytes + text.utf8ByteSize + 1) <;> rfl

namespace Writing

variable {sink : Sink} {cut : Cut} {w : Writing} {o : Output} {done : List Stroke}
  {stroke : Stroke} {error : SessionError} {text : String}

/-- Makes a stroke, unless an earlier one has been refused. -/
def write (sink : Sink) (w : Writing) (stroke : Stroke) : Writing :=
  if w.error?.isSome then w
  else
    match sink.refusal? (Stroke.totalSize w.done) stroke with
    | some error => { w with error? := some error }
    | none => { w with done := w.done ++ [stroke] }

theorem write_of_error (herror : w.error?.isSome) (stroke : Stroke) :
    w.write sink stroke = w := by
  rw [write, if_pos herror]

theorem write_of_refusal
    (hrefused : sink.refusal? (Stroke.totalSize done) stroke = some error) :
    write sink ⟨done, none⟩ stroke = ⟨done, some error⟩ := by
  simp only [write, hrefused, Option.isSome_none, Bool.false_eq_true, if_false]

theorem write_of_taken (htaken : sink.refusal? (Stroke.totalSize done) stroke = none) :
    write sink ⟨done, none⟩ stroke = ⟨done ++ [stroke], none⟩ := by
  simp only [write, htaken, Option.isSome_none, Bool.false_eq_true, if_false]

theorem foldl_write_of_error (herror : w.error?.isSome) (strokes : List Stroke) :
    strokes.foldl (write sink) w = w := by
  induction strokes with
  | nil => rfl
  | cons stroke rest ih => rw [List.foldl_cons, write_of_error herror, ih]

theorem foldl_write_of_refusal
    (hrefused : sink.refusal? (Stroke.totalSize done) stroke = some error)
    (rest : List Stroke) :
    (stroke :: rest).foldl (write sink) ⟨done, none⟩ = ⟨done, some error⟩ := by
  rw [List.foldl_cons, write_of_refusal hrefused]
  exact foldl_write_of_error rfl rest

theorem done_prefix_write (sink : Sink) (w : Writing) (stroke : Stroke) :
    w.done <+: (w.write sink stroke).done := by
  unfold write
  split_ifs with herror
  · exact List.prefix_refl _
  · split
    · exact List.prefix_refl _
    · exact List.prefix_append _ _

theorem done_prefix (sink : Sink) (w : Writing) (strokes : List Stroke) :
    w.done <+: (strokes.foldl (write sink) w).done := by
  induction strokes generalizing w with
  | nil => exact List.prefix_refl _
  | cons stroke rest ih => exact (done_prefix_write sink w stroke).trans (ih _)

theorem ends_foldl (sink : Sink) (strokes : List Stroke) :
    sink.Ends strokes (strokes.foldl (write sink) {}) := by
  induction strokes using List.reverseRecOn with
  | nil => exact .whole (by simp [Sink.Takes])
  | append_singleton strokes stroke ih =>
      rw [List.foldl_append, List.foldl_cons, List.foldl_nil]
      generalize strokes.foldl (write sink) {} = w at ih
      cases ih with
      | refused hmade htakes hrefused =>
          rw [write_of_error (w := ⟨_, some _⟩) rfl]
          exact .refused (hmade.trans (List.prefix_append strokes [stroke])) htakes hrefused
      | whole htakes =>
          cases hrefusal : sink.refusal? (Stroke.totalSize strokes) stroke with
          | some error =>
              rw [write_of_refusal hrefusal]
              exact .refused (List.prefix_refl _) htakes hrefusal
          | none =>
              rw [write_of_taken hrefusal]
              exact .whole (htakes.concat hrefusal)

theorem exists_refused_of_aborts (haborts : sink.aborts = true) (cut : Cut) (text : String) :
    ∃ stroke rest, cut.strokes text = stroke :: rest ∧
      ∀ bytes, sink.refusal? bytes stroke = some .writerAborted := by
  unfold Cut.strokes
  cases cut.pieces text <;> exact ⟨_, _, rfl, fun _ => if_pos haborts⟩

/-- The writer aborts just at the first write, if there is one. -/
theorem error_eq_writerAborted_iff (sink : Sink) (cut : Cut) (texts : List String) :
    ((texts.flatMap cut.strokes).foldl (write sink) {}).error? = some .writerAborted ↔
      sink.aborts = true ∧ texts ≠ [] := by
  constructor
  · intro herror
    have hends := ends_foldl sink (texts.flatMap cut.strokes)
    cases texts with
    | nil => simp at herror
    | cons text rest =>
        refine ⟨?_, List.cons_ne_nil _ _⟩
        generalize ((text :: rest).flatMap cut.strokes).foldl (write sink) {} = w at herror hends
        cases hends with
        | whole => simp at herror
        | refused hmade htakes hrefused =>
            obtain rfl := Option.some_inj.mp herror
            exact Sink.aborts_of_refusal hrefused
  · rintro ⟨haborts, hsome⟩
    obtain ⟨text, texts, rfl⟩ := List.exists_cons_of_ne_nil hsome
    obtain ⟨stroke, rest, hstrokes, hrefused⟩ := exists_refused_of_aborts haborts cut text
    rw [List.flatMap_cons, hstrokes, List.cons_append, foldl_write_of_refusal (hrefused _)]

/-! ## Whole lines -/

def lines (w : Writing) : List String := Stroke.lines w.done

theorem lines_prefix {earlier later : Writing} (h : earlier.done <+: later.done) :
    earlier.lines <+: later.lines := by
  obtain ⟨rest, hrest⟩ := h
  rw [lines, lines, ← hrest]
  exact Stroke.linesFrom_prefix "" earlier.done rest

/-- The strokes so far have come to the same as whole lines; unless one has been refused, they are
just the strokes of those lines. -/
structure Agrees (sink : Sink) (cut : Cut) (w : Writing) (o : Output) : Prop where
  lines_eq : w.lines = o.lines
  error_eq : w.error? = o.error?
  going : w.error? = none → w.done = o.lines.flatMap cut.strokes ∧
    o.bytes = Stroke.totalSize w.done ∧ sink.overrun? o.bytes = none

/-- A line of which some strokes are made is no line yet. -/
theorem lines_of_pieces (cut : Cut) (texts pieces : List String) (error? : Option SessionError) :
    lines ⟨texts.flatMap cut.strokes ++ pieces.map .piece, error?⟩ = texts := by
  rw [lines, cut.lines_strokes, Stroke.lines, ← List.append_nil (pieces.map Stroke.piece),
    Stroke.linesFrom_pieces, Stroke.linesFrom, List.append_nil]

theorem refusal?_piece (haborts : sink.aborts = false) (done : List Stroke) (text : String) :
    sink.refusal? (Stroke.totalSize done) (.piece text) =
      (sink.overrun? (Stroke.totalSize (done ++ [.piece text]))).map .unserialized := by
  simp [Sink.refusal?, haborts, Stroke.totalSize, Stroke.size]

theorem foldl_write_pieces (haborts : sink.aborts = false) (done : List Stroke)
    {pieces : List String}
    (hroom : sink.overrun? (Stroke.totalSize (done ++ pieces.map .piece)) = none) :
    (pieces.map .piece).foldl (write sink) ⟨done, none⟩ = ⟨done ++ pieces.map .piece, none⟩ := by
  induction pieces generalizing done with
  | nil => simp
  | cons text rest ih =>
      have hsplit : done ++ (text :: rest).map .piece =
          (done ++ [.piece text]) ++ rest.map .piece := by simp
      rw [hsplit] at hroom ⊢
      have hfirst : sink.overrun? (Stroke.totalSize (done ++ [.piece text])) = none :=
        Sink.overrun?_eq_none hroom (Stroke.totalSize_le_append _ _)
      have hrefusal := refusal?_piece haborts done text
      rw [hfirst] at hrefusal
      rw [List.map_cons, List.foldl_cons, write_of_taken hrefusal, ih _ hroom]

theorem foldl_write_pieces_of_overrun (haborts : sink.aborts = false) {done : List Stroke}
    {pieces : List String} {reason : String}
    (hroom : sink.overrun? (Stroke.totalSize done) = none)
    (hover : sink.overrun? (Stroke.totalSize (done ++ pieces.map .piece)) = some reason) :
    ∃ before : List String, (pieces.map .piece).foldl (write sink) ⟨done, none⟩ =
      ⟨done ++ before.map .piece, some (.unserialized reason)⟩ := by
  induction pieces generalizing done with
  | nil =>
      rw [List.map_nil, List.append_nil, hroom] at hover
      contradiction
  | cons text rest ih =>
      have hsplit : done ++ (text :: rest).map .piece =
          (done ++ [.piece text]) ++ rest.map .piece := by simp
      rw [hsplit] at hover
      have hrefusal := refusal?_piece haborts done text
      cases hfirst : sink.overrun? (Stroke.totalSize (done ++ [.piece text])) with
      | some other =>
          have hsame := Sink.overrun?_mono hfirst (Stroke.totalSize_le_append _ (rest.map .piece))
          obtain rfl := Option.some_inj.mp (hsame.symm.trans hover)
          rw [hfirst] at hrefusal
          refine ⟨[], ?_⟩
          rw [List.map_nil, List.append_nil]
          exact foldl_write_of_refusal hrefusal _
      | none =>
          rw [hfirst] at hrefusal
          obtain ⟨before, hbefore⟩ := ih hfirst hover
          refine ⟨text :: before, ?_⟩
          rw [List.map_cons, List.foldl_cons, write_of_taken hrefusal,
            hbefore, List.append_assoc]
          rfl

theorem foldl_write_newline (haborts : sink.aborts = false) (done : List Stroke) :
    [Stroke.newline, .flush].foldl (write sink) ⟨done, none⟩ =
      match sink.overrun? (Stroke.totalSize done + 1), sink.flushError? with
      | some reason, _ => ⟨done, some (.io reason)⟩
      | none, some reason => ⟨done ++ [.newline], some (.io reason)⟩
      | none, none => ⟨done ++ [.newline, .flush], none⟩ := by
  have hrefusal : sink.refusal? (Stroke.totalSize done) .newline =
      (sink.overrun? (Stroke.totalSize done + 1)).map .io := if_neg (by simp [haborts])
  cases hnewline : sink.overrun? (Stroke.totalSize done + 1) with
  | some reason =>
      rw [hnewline] at hrefusal
      exact foldl_write_of_refusal hrefusal _
  | none =>
      rw [hnewline] at hrefusal
      have hflush : sink.refusal? (Stroke.totalSize (done ++ [.newline])) .flush =
          sink.flushError?.map .io := rfl
      rw [List.foldl_cons, write_of_taken hrefusal]
      cases hfails : sink.flushError? with
      | some reason =>
          rw [hfails] at hflush
          exact foldl_write_of_refusal hflush _
      | none =>
          rw [hfails] at hflush
          rw [List.foldl_cons, write_of_taken hflush,
            List.append_assoc]
          rfl

/-- A line is refused inside its text, at its newline or at its flush, or it is taken. -/
theorem agrees_write_line (haborts : sink.aborts = false) (hgoes : o.error? = none)
    (hbytes : o.bytes = Stroke.totalSize (o.lines.flatMap cut.strokes))
    (hroom : sink.overrun? o.bytes = none) (text : String) :
    Agrees sink cut ((cut.strokes text).foldl (write sink) ⟨o.lines.flatMap cut.strokes, none⟩)
      (o.write sink text) := by
  have hsize : o.bytes + text.utf8ByteSize = Stroke.totalSize
      (o.lines.flatMap cut.strokes ++ (cut.pieces text).map .piece) := by
    rw [Stroke.totalSize_append, cut.totalSize_pieces, hbytes]
  rw [Output.write_eq hgoes haborts, Cut.strokes, List.foldl_append]
  cases htext : sink.overrun? (o.bytes + text.utf8ByteSize) with
  | some reason =>
      rw [hsize] at htext
      obtain ⟨before, hbefore⟩ := foldl_write_pieces_of_overrun haborts (hbytes ▸ hroom) htext
      rw [hbefore, foldl_write_of_error rfl]
      exact ⟨lines_of_pieces cut o.lines before _, rfl, by simp⟩
  | none =>
      rw [hsize] at htext
      rw [foldl_write_pieces haborts _ htext, foldl_write_newline haborts, ← hsize]
      cases hnewline : sink.overrun? (o.bytes + text.utf8ByteSize + 1) with
      | some reason => exact ⟨lines_of_pieces cut o.lines _ _, rfl, by simp⟩
      | none =>
          have hline := cut.lines_newline o.lines text
          cases hfails : sink.flushError? with
          | some reason => exact ⟨hline [], rfl, by simp⟩
          | none =>
              refine ⟨hline [.flush], rfl, fun _ => ⟨?_, ?_, hnewline⟩⟩
              · simp [Cut.strokes]
              · rw [Stroke.totalSize_append, ← hsize]
                rfl

theorem Agrees.write (h : w.Agrees sink cut o) (text : String) :
    ((cut.strokes text).foldl (Writing.write sink) w).Agrees sink cut (o.write sink text) := by
  have hlines := h.lines_eq
  have herrors := h.error_eq
  obtain ⟨done, error?⟩ := w
  cases error? with
  | some error =>
      rw [foldl_write_of_error rfl, Output.write_of_error (by simp [← herrors])]
      exact h
  | none =>
      obtain ⟨hdone, hbytes, hroom⟩ := h.going rfl
      obtain rfl : done = o.lines.flatMap cut.strokes := hdone
      have hgoes : o.error? = none := herrors.symm
      cases haborts : sink.aborts with
      | false => exact agrees_write_line haborts hgoes hbytes hroom text
      | true =>
          obtain ⟨stroke, rest, hstrokes, hrefused⟩ := exists_refused_of_aborts haborts cut text
          have hwrite : o.write sink text = { o with error? := some .writerAborted } := by
            simp [Output.write, hgoes, haborts]
          rw [hstrokes, foldl_write_of_refusal (hrefused _), hwrite]
          exact ⟨hlines, rfl, by simp⟩

theorem agrees_foldl (sink : Sink) (cut : Cut) (texts : List String) :
    Agrees sink cut ((texts.flatMap cut.strokes).foldl (write sink) {})
      (texts.foldl (Output.write sink) {}) := by
  have hfold (w : Writing) (o : Output) (h : w.Agrees sink cut o) :
      Agrees sink cut ((texts.flatMap cut.strokes).foldl (Writing.write sink) w)
        (texts.foldl (Output.write sink) o) := by
    induction texts generalizing w o with
    | nil => exact h
    | cons text rest ih =>
        rw [List.flatMap_cons, List.foldl_append, List.foldl_cons]
        exact ih _ _ (h.write text)
  exact hfold {} {} ⟨rfl, rfl, fun _ => ⟨rfl, rfl, sink.overrun?_zero⟩⟩

end Writing

end CecGateway
