import CecGateway.Daemon
import CecGateway.Proofs.Decoding
import CecGateway.Proofs.Lines
import CecGateway.Session

/-!
# The ends of lines

A line may end with a newline, with a carriage return and a newline, or, as the last line of an
input, with nothing. The end is blank and is trimmed before anything is read, so it has no say in
what a line means. Only the limit is judged first, and it is a limit of the whole line: a text with
no room for its end is a request at the end of the input, and too large elsewhere
(`terminators_do_not_matter`).
-/

namespace CecGateway

namespace Request

def terminators : List (List UInt8) := [[], [10], [13, 10]]

/-- The same request, or the same kind of error. -/
inductive Alike : Except RequestError Request → Except RequestError Request → Prop
  | same (answer : Except RequestError Request) : Alike answer answer
  | tooLarge (size other : Nat) : Alike (.error (.tooLarge size)) (.error (.tooLarge other))

/-- With its end, and only with it, the line is too large. -/
def Overflows (text terminator : List UInt8) : Prop :=
  text.length ≤ maxBytes ∧ maxBytes < text.length + terminator.length

instance (text terminator : List UInt8) : Decidable (Overflows text terminator) :=
  inferInstanceAs (Decidable (_ ∧ _))

variable {text terminator : List UInt8}

theorem all_isBlankByte (hterminator : terminator ∈ terminators) :
    terminator.all isBlankByte = true := by
  have hall : ∀ terminator ∈ terminators, terminator.all isBlankByte = true := by decide
  exact hall terminator hterminator

theorem parse_of_maxBytes_lt {line : List UInt8} (hsize : maxBytes < line.length) :
    parse line = .error (.tooLarge line.length) := if_pos hsize

theorem parse_ne_tooLarge {line : List UInt8} (hsize : line.length ≤ maxBytes) (size : Nat) :
    parse line ≠ .error (.tooLarge size) := by
  rw [parse, if_neg (Nat.not_lt.mpr hsize)]
  split
  · simp
  · split <;> simp

theorem parse_append_of_all (hblank : terminator.all isBlankByte = true)
    (hsize : text.length + terminator.length ≤ maxBytes) :
    parse (text ++ terminator) = parse text := by
  have hlong : ¬maxBytes < (text ++ terminator).length := by
    rw [List.length_append]
    omega
  have hshort : ¬maxBytes < text.length := by omega
  rw [parse, if_neg hlong, parse, if_neg hshort, trimEnd_append_of_all text hblank]

theorem parse_of_overflows (h : Overflows text terminator) :
    parse (text ++ terminator) = .error (.tooLarge (text.length + terminator.length)) := by
  have hsize : maxBytes < (text ++ terminator).length := by
    rw [List.length_append]
    exact h.2
  rw [parse_of_maxBytes_lt hsize, List.length_append]

theorem alike_parse_iff (hblank : terminator.all isBlankByte = true) :
    Alike (parse (text ++ terminator)) (parse text) ↔ ¬Overflows text terminator := by
  constructor
  · intro halike hoverflows
    rw [parse_of_overflows hoverflows] at halike
    have hnot := parse_ne_tooLarge hoverflows.1
    generalize parse text = answer at halike hnot
    cases halike with
    | same => exact hnot _ rfl
    | tooLarge size other => exact hnot other rfl
  · intro hfits
    by_cases hsize : text.length + terminator.length ≤ maxBytes
    · rw [parse_append_of_all hblank hsize]
      exact .same _
    · have hlarge : maxBytes < text.length := by
        unfold Overflows at hfits
        omega
      have hlarger : maxBytes < (text ++ terminator).length := by
        rw [List.length_append]
        omega
      rw [parse_of_maxBytes_lt hlarge, parse_of_maxBytes_lt hlarger]
      exact .tooLarge _ _

end Request

open Request (Alike Overflows terminators)

variable {before text terminator : List UInt8}

theorem Reading.ofLine_eq_of_alike {line other : List UInt8}
    (h : Alike (Request.parse line) (Request.parse other)) : ofLine line = ofLine other := by
  unfold ofLine
  generalize Request.parse line = x at h
  generalize Request.parse other = y at h
  cases h <;> rfl

theorem Session.read_eq_of_alike {line other : List UInt8}
    (h : Alike (Request.parse line) (Request.parse other)) (hardware : Hardware) (s : Session) :
    s.read hardware line = s.read hardware other := by
  simp only [Session.read, Reading.ofLine_eq_of_alike h]

theorem splitLines_terminated (htext : 10 ∉ text) (hterminator : terminator ∈ terminators)
    (hnonempty : text ++ terminator ≠ []) :
    splitLines (text ++ terminator) = [text ++ terminator] := by
  simp only [terminators, List.mem_cons, List.not_mem_nil, or_false] at hterminator
  obtain rfl | rfl | rfl := hterminator
  · rw [List.append_nil] at hnonempty ⊢
    exact splitLines_of_not_mem hnonempty htext
  · exact splitLines_append_newline htext []
  · have hreturn : 10 ∉ text ++ [13] := by simpa using htext
    have hsplit := splitLines_append_newline hreturn []
    simpa [splitLines] using hsplit

/-- Of the lines of a terminated text, a session reads the one there is, or none if it is blank. -/
theorem filter_splitLines_terminated (htext : 10 ∉ text) (hterminator : terminator ∈ terminators) :
    (splitLines (text ++ terminator)).filter (!isBlankLine ·) =
      if isBlankLine text then [] else [text ++ terminator] := by
  have hblank : isBlankLine (text ++ terminator) = isBlankLine text := by
    rw [isBlankLine, List.all_append, Request.all_isBlankByte hterminator, Bool.and_true,
      isBlankLine]
  by_cases hnonempty : text ++ terminator = []
  · obtain ⟨rfl, rfl⟩ := List.append_eq_nil_iff.mp hnonempty
    rfl
  · rw [splitLines_terminated htext hterminator hnonempty, ← hblank]
    cases hline : isBlankLine (text ++ terminator) <;> simp [hline]

theorem Session.readAll_terminated (hardware : Hardware) (c : Controller)
    (hbefore : before = [] ∨ before.getLast? = some 10) (htext : 10 ∉ text)
    (hterminator : terminator ∈ terminators) (hfits : ¬Overflows text terminator) :
    Session.readAll hardware c (splitLines (before ++ (text ++ terminator))) =
      Session.readAll hardware c (splitLines (before ++ text)) := by
  have hbare := filter_splitLines_terminated htext (List.mem_cons_self : [] ∈ terminators)
  rw [List.append_nil] at hbare
  have halike := (Request.alike_parse_iff (Request.all_isBlankByte hterminator)).mpr hfits
  rw [splitLines_append hbefore, splitLines_append hbefore]
  simp only [Session.readAll, List.filter_append, List.foldl_append, hbare,
    filter_splitLines_terminated htext hterminator]
  split
  · rfl
  · exact Session.read_eq_of_alike halike hardware _

/-- Whether a line is terminated, and how, makes no difference to what is read from it, nor to
serving an input that ends with it, unless its text is within the limit and has no room for its
end: then it is too large with that end. -/
theorem terminators_do_not_matter (text terminator : List UInt8)
    (hterminator : terminator ∈ terminators) :
    (Alike (Request.parse (text ++ terminator)) (Request.parse text) ↔
        ¬Overflows text terminator) ∧
      (Overflows text terminator → Request.parse (text ++ terminator) =
        .error (.tooLarge (text.length + terminator.length))) ∧
      ∀ hardware controller before sink, (before = [] ∨ before.getLast? = some 10) → 10 ∉ text →
        ¬Overflows text terminator →
          serve hardware controller ⟨before ++ (text ++ terminator), none⟩ sink =
            serve hardware controller ⟨before ++ text, none⟩ sink := by
  refine ⟨Request.alike_parse_iff (Request.all_isBlankByte hterminator),
    Request.parse_of_overflows, ?_⟩
  intro hardware controller before sink hbefore htext hfits
  have hsession := Session.readAll_terminated hardware controller hbefore htext hterminator hfits
  have hlines (bytes : List UInt8) : Source.lines ⟨bytes, none⟩ = splitLines bytes := rfl
  simp only [serve, hlines, hsession]

/-- A second line that ends in blanks of its own. -/
theorem carriage_return_does_not_matter :
    let text := Utf8.bytes "\x7b\"method\":\"scan\"\x7d \t"
    let before := Utf8.bytes "noise\n"
    [13, 10] ∈ terminators ∧ ¬Overflows text [13, 10] ∧
      Alike (Request.parse (text ++ [13, 10])) (Request.parse text) ∧
      serve (Hardware.scripted (.ok ()) fun _ => .ok (.lines [])) (Daemon.registered "RPI")
          ⟨before ++ (text ++ [13, 10]), none⟩ {} =
        serve (Hardware.scripted (.ok ()) fun _ => .ok (.lines [])) (Daemon.registered "RPI")
          ⟨before ++ text, none⟩ {} := by
  intro text before
  have hterminator : [13, 10] ∈ terminators := by decide
  have hfits : ¬Overflows text [13, 10] := by decide
  obtain ⟨halike, -, hserve⟩ := terminators_do_not_matter text [13, 10] hterminator
  exact ⟨hterminator, hfits, halike.mpr hfits,
    hserve _ _ before {} (.inr (by decide)) (by decide) hfits⟩

/-- A request of the greatest size, which its blanks bring it to. -/
def longestText : List UInt8 :=
  Utf8.encode (List.replicate (Request.maxBytes - 17) ' ' ++
    '\x7b' :: ("\"method\"".toList ++ ':' :: "\"scan\"".toList) ++ ['\x7d'])

/-- With a newline, a request of the greatest size is none. -/
theorem longest_text_has_no_room :
    10 ∉ longestText ∧ longestText.length = Request.maxBytes ∧
      Request.parse longestText = .ok { method := "scan" } ∧
      Request.parse (longestText ++ [10]) = .error (.tooLarge 65537) ∧
      ¬Alike (Request.parse (longestText ++ [10])) (Request.parse longestText) := by
  have hblanks (n : Nat) : Utf8.encode (List.replicate n ' ') = List.replicate n 32 := by
    induction n with
    | zero => rfl
    | succ n ih =>
        rw [List.replicate_succ, List.replicate_succ, ← ih]
        rfl
  have hbytes : longestText = List.replicate (Request.maxBytes - 17) 32 ++
      Utf8.bytes "\x7b\"method\":\"scan\"\x7d" := by
    rw [longestText, List.append_assoc, Utf8.encode, List.flatMap_append, ← hblanks]
    rfl
  have hnewline : 10 ∉ longestText := by
    rw [hbytes, List.mem_append, List.mem_replicate]
    decide
  have hlength : longestText.length = Request.maxBytes := by
    rw [hbytes, List.length_append, List.length_replicate]
    rfl
  have hw : Json.SpellsMembers 126 [("method", .str "scan")]
      ("\"method\"".toList ++ ':' :: "\"scan\"".toList) :=
    .last (Json.spells_quote "method") (Json.spells_quote "scan")
  have hbefore : List.replicate (Request.maxBytes - 17) ' ' ⊆ Json.blanks := by
    intro c hc
    rw [List.eq_of_mem_replicate hc]
    decide
  have hparse : Request.parse longestText = .ok { method := "scan" } := by
    have hread := Request.parse_of_spells hw hbefore (by simp [Request.IsField.method]) (by simp)
      (Request.Draft.request?_ofMembers rfl rfl) (List.nil_subset _)
      (by rw [List.append_nil]; exact Nat.le_of_eq hlength)
    rwa [List.append_nil] at hread
  have hoverflows : Overflows longestText [10] := ⟨Nat.le_of_eq hlength, by rw [hlength]; decide⟩
  have hlarge := Request.parse_of_overflows hoverflows
  rw [hlength] at hlarge
  exact ⟨hnewline, hlength, hparse, hlarge,
    fun halike => (Request.alike_parse_iff (by decide)).mp halike hoverflows⟩

end CecGateway
