import CecGateway.Proofs.Json.Printing
import CecGateway.Proofs.Json.Reading
import CecGateway.Proofs.Lines
import CecGateway.Proofs.Serving.Strokes
import CecGateway.Proofs.Text.Utf8

/-!
# What a line tells by itself

A client may make out an answer from its line alone, without knowing the request: the members that
are there tell which data has come, or that a failure has. So an answer is all that its line can
mean (`answers_describe_themselves`), and a stream of lines is read back as the answers that have
been written (`answers_read_back`).
-/

namespace CecGateway

/-! ## Making out an answer -/

namespace Json

def text? : Json → Option String
  | .str s => some s
  | _ => none

def textAt? (key : String) (v : Json) : Option String := (v.member? key).bind text?

end Json

def Device.ofJson? (v : Json) : Option Device := do
  let name ← v.textAt? "name"
  let address ← v.textAt? "address"
  let activeSource ← v.textAt? "activeSource"
  let vendor ← v.textAt? "vendor"
  let osd ← v.textAt? "osd"
  let cecVersion ← v.textAt? "cecVersion"
  let powerStatus ← v.textAt? "powerStatus"
  let language ← v.textAt? "language"
  return { name, address, activeSource, vendor, osd, cecVersion, powerStatus, language }

def Entry.ofJson? (v : Json) : Option Entry := do
  return ⟨← v.textAt? "key", ← v.textAt? "value"⟩

/-- Data has the members of one shape, and none of another. -/
def Data.ofJson? (v : Json) : Option Data :=
  match v.member? "cecAdapters", v.member? "devices", v.member? "payload", v.member? "key",
    v.member? "value" with
  | some (.arr names), none, none, none, none => (names.mapM Json.text?).map .adapters
  | none, some (.arr found), none, none, none => (found.mapM Device.ofJson?).map .devices
  | none, none, some (.arr found), none, none => (found.mapM Entry.ofJson?).map .entries
  | none, none, none, some (.str key), some (.str value) => some (.setting key value)
  | none, none, none, none, none => some .applied
  | _, _, _, _, _ => none

def Failure.all : List Failure :=
  [badInput, invalidParameters, invalidCommand, invalidAdapter, invalidDestination,
    hardwareUnavailable, unknown]

def Failure.ofJson? (v : Json) : Option Failure :=
  match v.member? "errorCode", v.member? "errorText" with
  | some (.int code), some (.str text) => all.find? fun f => f.code = code ∧ f.text = text
  | _, _ => none

namespace Answer

def ofJson? (v : Json) : Option Answer :=
  match v.member? "returnValue" with
  | some (.bool true) => (Data.ofJson? v).map fun data => ⟨v.member? "id", .ok data⟩
  | some (.bool false) => (Failure.ofJson? v).map fun reason => ⟨v.member? "id", .error reason⟩
  | _ => none

/-- The bytes that are written for an answer. -/
def line (a : Answer) : List UInt8 := Utf8.bytes a.render ++ [10]

/-- The value that is read from the line. -/
def shown (a : Answer) : Json := (Json.obj a.members).sorted

/-- The answer that a line means. -/
def ofLine? (depth : Nat) (line : List UInt8) : Option Answer :=
  (Json.parseWithin? depth line).bind ofJson?

/-- The identifier, if there is one, is a value that can be read and has no floats. -/
def HasPlainId (n : Nat) (a : Answer) : Prop := ∀ id, a.id = some id → id.Plain n

end Answer

/-! ## The bytes of a line -/

def Stroke.bytes : Stroke → List UInt8
  | piece text => Utf8.bytes text
  | newline => [10]
  | flush => []

theorem Cut.bytes_strokes (cut : Cut) (text : String) :
    (cut.strokes text).flatMap Stroke.bytes = Utf8.bytes text ++ [10] := by
  have hjoin (pieces : List String) :
      (pieces.map .piece).flatMap Stroke.bytes = Utf8.bytes (String.join pieces) := by
    induction pieces with
    | nil => rfl
    | cons piece rest ih =>
        rw [List.map_cons, List.flatMap_cons, ih, String.join_cons, Utf8.bytes, Utf8.bytes,
          String.toList_append, Utf8.encode, Utf8.encode, List.flatMap_append]
        rfl
  rw [strokes, List.flatMap_append, hjoin, cut.join_pieces]
  rfl

theorem Answer.newline_not_mem_bytes (a : Answer) : 10 ∉ Utf8.bytes a.render :=
  Utf8.newline_not_mem_bytes a.newline_not_mem_render

theorem Answer.line_eq (a : Answer) :
    a.line = Utf8.encode ((Json.obj a.members).chars ++ ['\n']) := by
  rw [Utf8.encode, List.flatMap_append, line, Utf8.bytes, render, Json.render, String.toList_ofList]
  rfl

/-! ## Data and failures are made out -/

namespace Json

theorem text?_sorted (v : Json) : v.sorted.text? = v.text? := by
  cases v <;> rfl

theorem textAt?_sorted {members : List (String × Json)} (hnodup : (members.map (·.1)).Nodup)
    (key : String) : (Json.obj members).sorted.textAt? key = (members.lookup key).bind text? := by
  rw [textAt?, member?_sorted hnodup]
  cases members.lookup key with
  | none => rfl
  | some v => exact v.text?_sorted

theorem mapM_sorted {α : Type} {read : Json → Option α} {toJson : α → Json}
    (hread : ∀ x, read (toJson x).sorted = some x) (xs : List α) :
    (sortedItems (xs.map toJson)).mapM read = some xs := by
  induction xs with
  | nil => rfl
  | cons x rest ih => simp [sortedItems, hread, ih]

end Json

theorem Device.ofJson?_toJson (d : Device) : ofJson? d.toJson.sorted = some d := by
  have hread (key : String) : d.toJson.sorted.textAt? key = _ :=
    Json.textAt?_sorted (by simp) key
  simp [ofJson?, hread, Json.lookup_cons_eq, Json.text?]

theorem Entry.ofJson?_toJson (e : Entry) : ofJson? e.toJson.sorted = some e := by
  have hread (key : String) : e.toJson.sorted.textAt? key = _ :=
    Json.textAt?_sorted (by simp) key
  simp [ofJson?, hread, Json.lookup_cons_eq, Json.text?]

section

variable {v : Json}

theorem Data.ofJson?_of_members (data : Data)
    (hmembers : ∀ key ∉ ["id", "returnValue"],
      v.member? key = (data.members.lookup key).map Json.sorted) :
    ofJson? v = some data := by
  have hread {key : String} (hid : key ≠ "id") (hflag : key ≠ "returnValue") :=
    hmembers key (by simp [hid, hflag])
  cases data with
  | adapters names =>
      have hnames := Json.mapM_sorted (fun name => Json.text?_sorted (.str name)) names
      simp [ofJson?, hread, members, Json.lookup_cons_eq, Json.sorted, hnames]
  | devices found =>
      have hfound := Json.mapM_sorted Device.ofJson?_toJson found
      simp [ofJson?, hread, members, Json.lookup_cons_eq, Json.sorted, hfound]
  | entries found =>
      have hfound := Json.mapM_sorted Entry.ofJson?_toJson found
      simp [ofJson?, hread, members, Json.lookup_cons_eq, Json.sorted, hfound]
  | setting key value =>
      simp [ofJson?, hread, members, Json.lookup_cons_eq, Json.sorted]
  | applied => simp [ofJson?, hread, members]

theorem Failure.ofJson?_of_members (f : Failure)
    (hcode : v.member? "errorCode" = some (.int f.code))
    (htext : v.member? "errorText" = some (.str f.text)) : ofJson? v = some f := by
  rw [ofJson?, hcode, htext]
  cases f <;> rfl

end

/-! ## Answers are made out -/

namespace Answer

variable {a : Answer}

theorem nodup_keys (a : Answer) : (a.members.map (·.1)).Nodup := by
  obtain ⟨id, outcome⟩ := a
  cases id <;> cases outcome with
  | ok data => cases data <;> simp [members, Data.members]
  | error reason => simp [members, Failure.members]

theorem member?_shown (a : Answer) (key : String) :
    a.shown.member? key = ((Json.obj a.members).member? key).map Json.sorted :=
  Json.member?_sorted a.nodup_keys key

theorem member?_members {key : String} (hid : key ≠ "id") (hflag : key ≠ "returnValue") :
    (Json.obj a.members).member? key = match a.outcome with
      | .ok data => data.members.lookup key
      | .error reason => reason.members.lookup key := by
  obtain ⟨id, outcome⟩ := a
  cases id <;> cases outcome <;>
    simp [Json.member?, members, Json.lookup_cons_eq, hid, hflag]

theorem member?_shown_id {n : Nat} (hid : a.HasPlainId n) : a.shown.member? "id" = a.id := by
  rw [member?_shown, member?_id]
  cases hsome : a.id with
  | none => rfl
  | some id => exact congrArg some (hid id hsome).sorted_eq

theorem member?_shown_returnValue (a : Answer) :
    a.shown.member? "returnValue" = some (.bool a.outcome.isOk) := by
  rw [member?_shown, member?_returnValue]
  rfl

theorem ofJson?_shown {n : Nat} (hid : a.HasPlainId n) : ofJson? a.shown = some a := by
  have hflag := a.member?_shown_returnValue
  have hread := member?_shown a
  obtain ⟨id, outcome⟩ := a
  cases outcome with
  | ok data =>
      have hdata : Data.ofJson? (shown ⟨id, .ok data⟩) = some data := by
        refine Data.ofJson?_of_members data fun key hkey => ?_
        simp only [List.mem_cons, List.not_mem_nil, or_false, not_or] at hkey
        rw [hread, member?_members hkey.1 hkey.2]
      rw [ofJson?, hflag, member?_shown_id hid]
      simp [Except.isOk, Except.toBool, hdata]
  | error reason =>
      have hreason : Failure.ofJson? (shown ⟨id, .error reason⟩) = some reason := by
        apply Failure.ofJson?_of_members
        · rw [hread, member?_members (by decide) (by decide)]
          rfl
        · rw [hread, member?_members (by decide) (by decide)]
          rfl
      rw [ofJson?, hflag, member?_shown_id hid]
      simp [Except.isOk, Except.toBool, hreason]

end Answer

/-! ## Lines are read back -/

section

variable {n : Nat}

theorem Data.floatless_members (data : Data) : ∀ m ∈ data.members, (m.2).Floatless (n + 2) := by
  cases data with
  | adapters names =>
      exact List.forall_mem_singleton.mpr (.arr (List.forall_mem_map.mpr fun name _ => .str name))
  | devices found =>
      refine List.forall_mem_singleton.mpr (.arr (List.forall_mem_map.mpr fun d _ => .obj ?_))
      simp [Json.Floatless.str]
  | entries found =>
      refine List.forall_mem_singleton.mpr (.arr (List.forall_mem_map.mpr fun e _ => .obj ?_))
      simp [Json.Floatless.str]
  | setting key value => simp [members, Json.Floatless.str]
  | applied => exact List.forall_mem_nil _

theorem Failure.floatless_members (f : Failure) : ∀ m ∈ f.members, (m.2).Floatless n := by
  have hcode : (Json.int f.code).Floatless n := by
    cases f <;> exact .int ⟨by decide, by decide⟩
  simp [members, hcode, Json.Floatless.str]

end

namespace Answer

variable {a other : Answer} {m n depth : Nat}

theorem floatless_members (hid : a.HasPlainId n) :
    (Json.obj a.members).Floatless (max n 2 + 1) := by
  obtain ⟨k, hk⟩ := Nat.exists_eq_add_of_le' (Nat.le_max_right n 2)
  rw [hk]
  obtain ⟨id, outcome⟩ := a
  have houtcome : ∀ m ∈ (members ⟨none, outcome⟩), (m.2).Floatless (k + 2) := by
    cases outcome with
    | ok data => exact List.forall_mem_cons.mpr ⟨.bool true, data.floatless_members⟩
    | error reason => exact List.forall_mem_cons.mpr ⟨.bool false, reason.floatless_members⟩
  cases id with
  | none => exact .obj houtcome
  | some id =>
      have hplain := (hid id rfl).floatless.mono (hk ▸ Nat.le_max_left n 2)
      exact .obj (List.forall_mem_cons.mpr ⟨hplain, houtcome⟩)

theorem parse_line (hid : a.HasPlainId n) (hdepth : max n 2 + 1 < depth) :
    Json.parseWithin? depth a.line = some a.shown := by
  rw [line_eq]
  exact Json.parseWithin?_of_spells (.blankAfter (by decide) (floatless_members hid).spells) hdepth

theorem ofLine?_line (hid : a.HasPlainId n) (hdepth : max n 2 + 1 < depth) :
    ofLine? depth a.line = some a := by
  rw [ofLine?, parse_line hid hdepth]
  exact ofJson?_shown hid

theorem line_injective (hid : a.HasPlainId n) (hother : other.HasPlainId m)
    (hsame : other.line = a.line) : other = a := by
  have hread := ofLine?_line hother (Nat.lt_succ_of_le (Nat.le_max_left _ (max n 2 + 1)))
  rw [hsame, ofLine?_line hid (Nat.lt_succ_of_le (Nat.le_max_right _ _))] at hread
  exact (Option.some_inj.mp hread).symm

theorem splitLines_lines (answers : List Answer) :
    splitLines (answers.flatMap line) = answers.map line := by
  induction answers with
  | nil => rfl
  | cons a rest ih =>
      rw [List.flatMap_cons, line, List.append_assoc, List.singleton_append,
        splitLines_append_newline a.newline_not_mem_bytes, ih]
      rfl

end Answer

/-- A stream of answers that is cut at its newlines gives these answers, in their order. -/
theorem answers_read_back {answers : List Answer} {n depth : Nat}
    (hids : ∀ a ∈ answers, a.HasPlainId n) (hdepth : max n 2 + 1 < depth) :
    (splitLines (answers.flatMap Answer.line)).mapM (Answer.ofLine? depth) = some answers := by
  rw [Answer.splitLines_lines]
  induction answers with
  | nil => rfl
  | cons a rest ih =>
      obtain ⟨hid, hrest⟩ := List.forall_mem_cons.mp hids
      simp [Answer.ofLine?_line hid hdepth, ih hrest]

/-- The last byte of a line is its only newline, and nothing but the line is needed to make out the
answer, by a reader that goes as deep as the identifier does. -/
theorem answers_describe_themselves (a : Answer) (n : Nat) (hid : a.HasPlainId n) :
    (∀ cut : Cut, (cut.strokes a.render).flatMap Stroke.bytes = a.line) ∧
    (∃ text, a.line = text ++ [10] ∧ 10 ∉ text) ∧
    (∀ depth, max n 2 + 1 < depth → ∃ v, Json.parseWithin? depth a.line = some v ∧
      v.member? "id" = a.id ∧ v.member? "returnValue" = some (.bool a.outcome.isOk) ∧
      Answer.ofJson? v = some a) ∧
    ∀ (other : Answer) (m : Nat), other.HasPlainId m → other.line = a.line → other = a := by
  refine ⟨fun cut => cut.bytes_strokes a.render, ⟨_, rfl, a.newline_not_mem_bytes⟩,
    fun depth hdepth => ?_, fun other m hother hsame => Answer.line_injective hid hother hsame⟩
  exact ⟨a.shown, Answer.parse_line hid hdepth, Answer.member?_shown_id hid,
    a.member?_shown_returnValue, Answer.ofJson?_shown hid⟩

def scanAnswer : Answer :=
  .ofResult (some (.obj [("turn", .arr [.int 7])]))
    (.success .scan (.devices [{ name := "TV", address := "0", vendor := "\"LG\"\n" }]))

theorem scanAnswer_describes_itself :
    (∃ text, scanAnswer.line = text ++ [10] ∧ 10 ∉ text) ∧
    ∃ v, Json.parse? scanAnswer.line = some v ∧
      v.member? "id" = some (.obj [("turn", .arr [.int 7])]) ∧
      v.member? "returnValue" = some (.bool true) ∧ Answer.ofJson? v = some scanAnswer := by
  have hid : scanAnswer.HasPlainId 2 := by
    intro id hsome
    obtain rfl := Option.some_inj.mp hsome
    refine ⟨.obj (List.forall_mem_singleton.mpr (.arr (List.forall_mem_singleton.mpr ?_))), rfl⟩
    exact .int ⟨by decide, by decide⟩
  obtain ⟨-, hframed, hread, -⟩ := answers_describe_themselves scanAnswer 2 hid
  refine ⟨hframed, ?_⟩
  rw [Json.parse?_eq_parseWithin?]
  exact hread Json.maxDepth (by decide)

end CecGateway
