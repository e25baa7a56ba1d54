import CecGateway.Proofs.Json.Members
import CecGateway.Proofs.Json.Printing
import CecGateway.Proofs.Json.Reading
import CecGateway.Request

/-!
# Requests are decoded

How a command may be written as the line of a request: which members it has, in any order, with
what may be left out or be `null`, and spelled in any way that JSON allows. However it has been
written, the command is what is read from the line, and so is its identifier (`request_is_decoded`).
-/

namespace CecGateway

open Utf8 (Piece)

/-! ## How a command is written -/

/-- A value that may be missing: then it is left out, or `null` stands in its place. -/
inductive WritesOptional {α : Type} (key : String) (toJson : α → Json) :
    Option α → List (String × Json) → Prop
  | given (value : α) : WritesOptional key toJson (some value) [(key, toJson value)]
  | null : WritesOptional key toJson none [(key, .null)]
  | omitted : WritesOptional key toJson none []

/-- The default need not be written. -/
inductive WritesTimeout : UInt32 → List (String × Json) → Prop
  | given (timeout : UInt32) : WritesTimeout timeout [("timeout", .int timeout.toNat)]
  | omitted : WritesTimeout defaultTimeout []

inductive Argument.Writes (a : Argument) : Json → Prop
  | mk {value members : List (String × Json)} (hvalue : WritesOptional "value" .str a.value value)
      (hmembers : members.Perm (("arg", .str a.name) :: value)) : a.Writes (.ofMembers members)

inductive WritesArguments : List Argument → List (String × Json) → Prop
  | given {arguments : List Argument} {items : List Json}
      (hitems : List.Forall₂ Argument.Writes arguments items) :
      WritesArguments arguments [("args", .arr items)]
  | omitted : WritesArguments [] []

inductive SubCommand.Writes (c : SubCommand) : Json → Prop
  | mk {arguments members : List (String × Json)}
      (harguments : WritesArguments c.arguments arguments)
      (hmembers : members.Perm (("name", .str c.name) :: arguments)) :
      c.Writes (.ofMembers members)

namespace Payload

inductive WritesFields : Payload → List (String × Json) → Prop
  | listAdapters : WritesFields .listAdapters []
  | scan {adapter : Option String} {fields : List (String × Json)}
      (hadapter : WritesOptional "adapter" .str adapter fields) :
      WritesFields (.scan adapter) fields
  | sendCommand {adapter : Option String} {destination : String} {timeout : UInt32}
      {command : SubCommand} {adapterField timeoutField : List (String × Json)} {v : Json}
      (hadapter : WritesOptional "adapter" .str adapter adapterField)
      (htimeout : WritesTimeout timeout timeoutField) (hcommand : command.Writes v) :
      WritesFields (.sendCommand adapter destination timeout command)
        (("destAddress", .str destination) :: ("command", v) :: adapterField ++ timeoutField)
  | getConfig {key : String} {adapter : Option String} {fields : List (String × Json)}
      (hadapter : WritesOptional "adapter" .str adapter fields) :
      WritesFields (.getConfig key adapter) (("key", .str key) :: fields)
  | setConfig {key value : String} {adapter : Option String} {fields : List (String × Json)}
      (hadapter : WritesOptional "adapter" .str adapter fields) :
      WritesFields (.setConfig key value adapter)
        (("key", .str key) :: ("value", .str value) :: fields)

variable (p : Payload)

/-- If there is no field to be written, the parameters need not be. -/
inductive WritesParams : List (String × Json) → Prop
  | given {fields members : List (String × Json)} (hfields : p.WritesFields fields)
      (hmembers : members.Perm fields) : WritesParams [("params", .ofMembers members)]
  | null (hfields : p.WritesFields []) : WritesParams [("params", .null)]
  | omitted (hfields : p.WritesFields []) : WritesParams []

inductive WritesEnvelope (id : Option Json) : List (String × Json) → Prop
  | mk {params idField members : List (String × Json)} (hparams : p.WritesParams params)
      (hid : WritesOptional "id" (fun v => v) id idField)
      (hmembers : members.Perm (("method", .str p.kind.name) :: params ++ idField)) :
      WritesEnvelope id members

/-- The line of a request, with blank bytes at its end. An identifier may have as many containers
around its parts as a document may have, but for the envelope. -/
inductive WritesLine (id : Option Json) : List UInt8 → Prop
  | mk {members : List (String × Json)} {before w : List Char} {after : List UInt8}
      (hmembers : p.WritesEnvelope id members) (hw : Json.SpellsMembers 126 members w)
      (hbefore : before ⊆ Json.blanks) (hafter : after ⊆ [32, 9, 10, 12, 13]) :
      WritesLine id (Utf8.encode (before ++ '\x7b' :: w ++ ['\x7d']) ++ after)

end Payload

section

variable {α : Type} {key other : String} {toJson : α → Json} {value : Option α} {timeout : UInt32}
  {arguments : List Argument} {fields : List (String × Json)}

/-- Where no other field can have been written, none is found. -/
theorem lookup_of_keys (hkeys : (fields.map (·.1)).Sublist [key]) (hne : other ≠ key) :
    fields.lookup other = none := by
  refine List.lookup_eq_none_iff.mpr fun m hm => ?_
  have hkey := List.mem_singleton.mp (hkeys.subset (List.mem_map_of_mem hm))
  simpa [hkey] using hne

theorem WritesOptional.keys (h : WritesOptional key toJson value fields) :
    (fields.map (·.1)).Sublist [key] := by
  cases h <;> simp

theorem WritesTimeout.keys (h : WritesTimeout timeout fields) :
    (fields.map (·.1)).Sublist ["timeout"] := by
  cases h <;> simp

theorem WritesArguments.keys (h : WritesArguments arguments fields) :
    (fields.map (·.1)).Sublist ["args"] := by
  cases h <;> simp

end

/-! ## Typed parameters -/

namespace Request

open Json (fields?_ofMembers lookup_cons_eq)

theorem optionalText?_of_writes {key : String} {text : Option String}
    {fields : List (String × Json)} (h : WritesOptional key .str text fields) :
    optionalText? (fields.lookup key) = some text := by
  cases h <;> simp [optionalText?]

theorem timeout?_of_writes {timeout : UInt32} {fields : List (String × Json)}
    (h : WritesTimeout timeout fields) :
    timeout? (fields.lookup "timeout") = some timeout := by
  cases h with
  | given =>
      have hlt := timeout.toNat_lt
      have hsize : UInt32.size = 0x100000000 := rfl
      simp [timeout?, hsize]
      omega
  | omitted => rfl

theorem argument?_of_writes {a : Argument} {v : Json} (h : a.Writes v) :
    argument? v = some a := by
  obtain ⟨hvalue, hmembers⟩ := h
  have hread := fields?_ofMembers hmembers ((hvalue.keys.cons_cons "arg").nodup (by decide))
    ["arg", "value"]
  have htext := optionalText?_of_writes hvalue
  simp [argument?, hread, lookup_cons_eq, text?, htext]

theorem arguments?_of_writes {arguments : List Argument} {fields : List (String × Json)}
    (h : WritesArguments arguments fields) :
    arguments? (fields.lookup "args") = some arguments := by
  cases h with
  | @given _ items hitems =>
      have hread : items.mapM argument? = some arguments := by
        induction hitems with
        | nil => rfl
        | cons hitem _ ih => simp [argument?_of_writes hitem, ih]
      simpa [arguments?] using hread
  | omitted => rfl

theorem subCommand?_of_writes {c : SubCommand} {v : Json} (h : c.Writes v) :
    subCommand? v = some c := by
  obtain ⟨harguments, hmembers⟩ := h
  have hread := fields?_ofMembers hmembers ((harguments.keys.cons_cons "name").nodup (by decide))
    ["name", "args"]
  have harguments := arguments?_of_writes harguments
  simp [subCommand?, hread, lookup_cons_eq, text?, harguments]

theorem payload?_of_writes {p : Payload} {fields members : List (String × Json)}
    (h : p.WritesFields fields) (hmembers : members.Perm fields) :
    payload? p.kind (.ofMembers members) = some p := by
  cases h with
  | listAdapters => rfl
  | scan hadapter =>
      have hread := fields?_ofMembers hmembers (hadapter.keys.nodup (by decide)) ["adapter"]
      have hadapter := optionalText?_of_writes hadapter
      simp [Payload.kind, payload?, hread, hadapter]
  | @sendCommand _ _ _ _ adapterField timeoutField _ hadapter htimeout hcommand =>
      have hkeys : ["destAddress", "command", "adapter", "timeout"].Nodup := by decide
      have hsublist := (hadapter.keys.append htimeout.keys).cons_cons "command"
      have hnone := lookup_of_keys hadapter.keys (show "timeout" ≠ "adapter" by decide)
      have hothers := lookup_of_keys htimeout.keys (show "adapter" ≠ "timeout" by decide)
      have hadapter := optionalText?_of_writes hadapter
      have htimeout := timeout?_of_writes htimeout
      have hread := fields?_ofMembers hmembers
        ((by simpa using hsublist.cons_cons "destAddress" : List.Sublist _ _).nodup hkeys)
        ["adapter", "destAddress", "timeout", "command"]
      simp [Payload.kind, payload?, hread, lookup_cons_eq, List.lookup_append, hnone, hothers,
        hadapter, htimeout, text?, subCommand?_of_writes hcommand]
  | getConfig hadapter =>
      have hread := fields?_ofMembers hmembers ((hadapter.keys.cons_cons "key").nodup (by decide))
        ["key", "adapter"]
      have hadapter := optionalText?_of_writes hadapter
      simp [Payload.kind, payload?, hread, lookup_cons_eq, text?, hadapter]
  | setConfig hadapter =>
      have hread := fields?_ofMembers hmembers
        (((hadapter.keys.cons_cons "value").cons_cons "key").nodup (by decide))
        ["key", "value", "adapter"]
      have hadapter := optionalText?_of_writes hadapter
      simp [Payload.kind, payload?, hread, lookup_cons_eq, text?, hadapter]

/-! ## The envelope -/

/-- What a draft has taken in of these members. -/
def Draft.ofMembers (members : List (String × Json)) : Draft where
  method := text? (members.lookup "method")
  params := members.lookup "params"
  id := (members.lookup "id").map fun
    | .null => none
    | v => some v

inductive IsField : String → Json → Prop
  | method (name : String) : IsField "method" (.str name)
  | params (v : Json) : IsField "params" v
  | id (v : Json) : IsField "id" v

open Json (Input Spells SpellsMembers EndsNumeral skipSpace token string)

section

variable {members done : List (String × Json)} {key : String} {v : Json} {w : List Char}

theorem keptValue_of_spells (h : Spells 126 v w) {rest : Input} (hrest : EndsNumeral rest) :
    ∃ left, keptValue (w.map Piece.char ++ rest) = some (v, left) ∧
      skipSpace left = skipSpace rest := by
  refine Json.value_of_spells h (Json.maxDepth - 1) _ rest (by decide) ?_ hrest
  simp only [Json.fuelFor, List.length_append, List.length_map]
  omega

/-- A field that has not come yet is taken in. -/
theorem field_of_spells (hfield : IsField key v) (hnew : done.lookup key = none)
    (h : Spells 126 v w) {rest : Input} (hrest : EndsNumeral rest) :
    ∃ left, field (.ofMembers done) key (w.map Piece.char ++ rest) =
        some (.ofMembers (done ++ [(key, v)]), left) ∧ skipSpace left = skipSpace rest := by
  cases hfield with
  | method name =>
      obtain ⟨left, hread, hleft⟩ := Json.string_of_spells h rest
      refine ⟨left, ?_, hleft⟩
      simp [field, Draft.ofMembers, hnew, text?, hread, List.lookup_append, Json.lookup_cons_eq]
  | params =>
      obtain ⟨left, hread, hleft⟩ := keptValue_of_spells h hrest
      refine ⟨left, ?_, hleft⟩
      simp [field, Draft.ofMembers, hnew, hread, List.lookup_append, Json.lookup_cons_eq]
  | id =>
      obtain ⟨left, hread, hleft⟩ := keptValue_of_spells h hrest
      refine ⟨left, ?_, hleft⟩
      simp only [field, identifier, Draft.ofMembers, hnew, hread, List.lookup_append,
        Json.lookup_cons_eq]
      cases v <;> simp

theorem lookup_eq_none_of_nodup {m : String × Json}
    (hnodup : ((done ++ m :: members).map (·.1)).Nodup) : done.lookup m.1 = none := by
  rw [List.map_append, List.map_cons, List.nodup_append] at hnodup
  refine List.lookup_eq_none_iff.mpr fun other hother => ?_
  have hne := hnodup.2.2 other.1 (List.mem_map_of_mem hother) m.1 List.mem_cons_self
  simpa using hne.symm

theorem envelopeFields_of_spells {members : List (String × Json)} {w : List Char} :
    SpellsMembers 126 members w →
    ∀ (done : List (String × Json)) (fuel : Nat) (rest : Input), w.length < fuel →
      (∀ m ∈ members, IsField m.1 m.2) → ((done ++ members).map (·.1)).Nodup →
        envelopeFields fuel (.ofMembers done) (w.map Piece.char ++ .char '\x7d' :: rest) =
          some (.ofMembers (done ++ members), rest)
  | @SpellsMembers.last _ key v k w hk hw, done, fuel + 1, rest, hfuel, hfields, hnodup => by
      obtain ⟨behind, hkey, hbehind⟩ := Json.string_of_spells hk
        (.char ':' :: (w.map Piece.char ++ .char '\x7d' :: rest))
      obtain ⟨left, hread, hleft⟩ := field_of_spells (hfields _ List.mem_cons_self)
        (lookup_eq_none_of_nodup hnodup) hw
        (Json.endsNumeral_of_mark '\x7d' (by decide) rest)
      have hcomma := Json.token_ne_of_left ',' '\x7d' (by decide) (by decide) hleft
      simp [envelopeFields, hkey, Json.token_of_left ':' (by decide) hbehind, hread, hcomma,
        Json.token_of_left '\x7d' (by decide) hleft]
  | @SpellsMembers.cons _ key v members k w ws hk hw hws, done, fuel + 1, rest, hfuel, hfields,
      hnodup => by
      simp only [List.length_append, List.length_cons] at hfuel
      obtain ⟨hfield, hfields⟩ := List.forall_mem_cons.mp hfields
      obtain ⟨behind, hkey, hbehind⟩ := Json.string_of_spells hk (.char ':' ::
        (w.map Piece.char ++ .char ',' :: (ws.map Piece.char ++ .char '\x7d' :: rest)))
      obtain ⟨left, hread, hleft⟩ := field_of_spells hfield (lookup_eq_none_of_nodup hnodup) hw
        (Json.endsNumeral_of_mark ',' (by decide) (ws.map Piece.char ++ .char '\x7d' :: rest))
      have hrest := envelopeFields_of_spells hws (done ++ [(key, v)]) fuel rest (by omega) hfields
        (by simpa using hnodup)
      rw [List.append_assoc, List.singleton_append] at hrest
      simp [envelopeFields, hkey, Json.token_of_left ':' (by decide) hbehind, hread,
        Json.token_of_left ',' (by decide) hleft, hrest]

theorem token_of_envelopeFields {fuel : Nat} {draft : Draft} {input : Input} {x : Draft × Input}
    (h : envelopeFields fuel draft input = some x) : token '\x7d' input = none := by
  cases htoken : token '\x7d' input with
  | none => rfl
  | some after =>
      cases fuel with
      | zero => simp [envelopeFields] at h
      | succ fuel =>
          simp [envelopeFields, string, token, Json.skipSpace_of_token htoken, Json.literal] at h

theorem ofDocument?_of_spells (hw : SpellsMembers 126 members w) {before : List Char}
    (hbefore : before ⊆ Json.blanks) (hfields : ∀ m ∈ members, IsField m.1 m.2)
    (hnodup : (members.map (·.1)).Nodup) :
    ofDocument? (Utf8.encode (before ++ '\x7b' :: w ++ ['\x7d'])) =
      (Draft.ofMembers members).request? := by
  have hopen : '\x7b' ∉ Json.blanks := by decide
  have hread := envelopeFields_of_spells hw [] (w.length + 1) [] (by omega) hfields hnodup
  have hclose := token_of_envelopeFields hread
  have hempty : Draft.ofMembers [] = {} := rfl
  have henvelope : envelope ((before ++ '\x7b' :: w ++ ['\x7d']).map Piece.char) =
      some (.ofMembers members, []) := by
    rw [List.append_assoc, List.map_append]
    unfold envelope
    rw [Json.skipSpace_of_blanks hbefore]
    simpa [Json.skipSpace_of_not_blank hopen, hclose, hempty] using hread
  rw [ofDocument?, Utf8.decode_encode, henvelope]
  rfl

theorem trimEnd_append_of_all (bytes : List UInt8) {after : List UInt8}
    (hblank : after.all isBlankByte = true) : trimEnd (bytes ++ after) = trimEnd bytes := by
  have hreverse : ∀ b ∈ after.reverse, isBlankByte b = true := fun b hb =>
    List.all_eq_true.mp hblank b (List.mem_reverse.mp hb)
  rw [trimEnd, List.reverse_append, List.dropWhile_append_of_pos hreverse, trimEnd]

theorem trimEnd_append (bytes : List UInt8) {last : UInt8} (hlast : isBlankByte last = false)
    {after : List UInt8} (hafter : after ⊆ [32, 9, 10, 12, 13]) :
    trimEnd (bytes ++ [last] ++ after) = bytes ++ [last] := by
  have hbytes : ([32, 9, 10, 12, 13] : List UInt8).all isBlankByte = true := by decide
  have hblank : after.all isBlankByte = true :=
    List.all_eq_true.mpr fun b hb => List.all_eq_true.mp hbytes b (hafter hb)
  rw [trimEnd_append_of_all _ hblank]
  simp [trimEnd, hlast]

theorem encode_closed (inside : List Char) :
    Utf8.encode (inside ++ ['\x7d']) = Utf8.encode inside ++ [125] := by
  rw [Utf8.encode, List.flatMap_append]
  rfl

theorem trimEnd_closed (inside : List Char) {after : List UInt8}
    (hafter : after ⊆ [32, 9, 10, 12, 13]) :
    trimEnd (Utf8.encode (inside ++ ['\x7d']) ++ after) = Utf8.encode (inside ++ ['\x7d']) := by
  rw [encode_closed, trimEnd_append _ (by decide) hafter]

theorem parse_of_spells (hw : SpellsMembers 126 members w) {before : List Char}
    (hbefore : before ⊆ Json.blanks) (hfields : ∀ m ∈ members, IsField m.1 m.2)
    (hnodup : (members.map (·.1)).Nodup) {r : Request}
    (hrequest : (Draft.ofMembers members).request? = some r) {after : List UInt8}
    (hafter : after ⊆ [32, 9, 10, 12, 13])
    (hsize : (Utf8.encode (before ++ '\x7b' :: w ++ ['\x7d']) ++ after).length ≤ maxBytes) :
    parse (Utf8.encode (before ++ '\x7b' :: w ++ ['\x7d']) ++ after) = .ok r := by
  have hdocument := ofDocument?_of_spells hw hbefore hfields hnodup
  have htrim := trimEnd_closed (before ++ '\x7b' :: w) hafter
  have hnonempty : (Utf8.encode (before ++ '\x7b' :: w ++ ['\x7d'])).isEmpty = false := by
    rw [encode_closed]
    simp
  rw [parse, if_neg (Nat.not_lt.mpr hsize), htrim, hnonempty, hdocument, hrequest]
  rfl

theorem Draft.request?_ofMembers {name : String} {id : Option Json}
    (hmethod : members.lookup "method" = some (.str name))
    (hid : (Draft.ofMembers members).id.join = id) :
    (Draft.ofMembers members).request? =
      some ⟨name, (members.lookup "params").getD .null, id⟩ := by
  have hname : (Draft.ofMembers members).method = some name := by
    simp [Draft.ofMembers, hmethod, text?]
  simp only [Draft.request?, hname, hid]
  rfl

theorem payload_of_kind {r : Request} {k : Kind} {p : Payload} (hkind : r.kind = .ok k)
    (hread : payload? k (match r.params with
      | .null => .obj []
      | params => params) = some p) : r.payload = .ok p := by
  rw [payload, hkind]
  simp only [bind, Except.bind]
  split
  · rename_i found hfound
    exact congrArg Except.ok (Option.some.inj (hfound.symm.trans hread))
  · rename_i hnone
    exact absurd (hnone.symm.trans hread) (by simp)

theorem kind_name (k : Kind) (params : Json) (id : Option Json) :
    kind ⟨k.name, params, id⟩ = .ok k := by
  have htrimmed : Text.trimmed k.name = k.name := by cases k <;> decide
  simp [kind, htrimmed, Kind.ofName?_name]

end

end Request

/-! ## Requests -/

namespace Payload

variable {p : Payload} {id : Option Json} {members fields : List (String × Json)}

theorem WritesParams.keys (h : p.WritesParams fields) :
    (fields.map (·.1)).Sublist ["params"] := by
  cases h <;> simp

theorem WritesParams.isField (h : p.WritesParams fields) :
    ∀ m ∈ fields, Request.IsField m.1 m.2 := by
  cases h <;> simp [Request.IsField.params]

theorem WritesEnvelope.isField (h : p.WritesEnvelope id members) :
    (∀ m ∈ members, Request.IsField m.1 m.2) ∧ (members.map (·.1)).Nodup := by
  obtain ⟨hparams, hid, hmembers⟩ := h
  have hkeys := ((hparams.keys.append hid.keys).cons_cons "method").nodup (by decide)
  refine ⟨fun m hm => ?_, (hmembers.map _).nodup_iff.mpr (by simpa using hkeys)⟩
  have hm := hmembers.mem_iff.mp hm
  rw [List.cons_append, List.mem_cons, List.mem_append] at hm
  obtain rfl | hm | hm := hm
  · exact .method _
  · exact hparams.isField m hm
  · cases hid <;> simp_all [Request.IsField.id]

theorem WritesParams.payload_eq (h : p.WritesParams fields) (id : Option Json) :
    Request.payload ⟨p.kind.name, (fields.lookup "params").getD .null, id⟩ = .ok p := by
  refine Request.payload_of_kind (Request.kind_name p.kind _ _) ?_
  cases h with
  | given hfields hmembers => exact Request.payload?_of_writes hfields hmembers
  | null hfields | omitted hfields => exact Request.payload?_of_writes hfields (.refl [])

theorem id_of_writes (h : WritesOptional "id" (fun v => v) id fields) (hid : id ≠ some .null)
    (hmembers : members.lookup "id" = fields.lookup "id") :
    (Request.Draft.ofMembers members).id.join = id := by
  rw [Request.Draft.ofMembers, hmembers]
  cases h with
  | given v => cases v <;> simp_all
  | null | omitted => rfl

/-- The draft of such an envelope is a request for the command. -/
theorem WritesEnvelope.request? (h : p.WritesEnvelope id members) (hid : id ≠ some .null) :
    ∃ r, (Request.Draft.ofMembers members).request? = some r ∧ r.id = id ∧ r.payload = .ok p := by
  have hnodup := h.isField.2
  obtain ⟨hparams, hidField, hmembers⟩ := h
  rename_i params idField
  have hlookup := Json.lookup_of_perm hmembers ((hmembers.map _).nodup_iff.mp hnodup)
  have hmethod : members.lookup "method" = some (.str p.kind.name) := by
    rw [hlookup, List.cons_append, Json.lookup_cons_eq, if_pos rfl]
  have hparamsRead : members.lookup "params" = params.lookup "params" := by
    simp [hlookup, Json.lookup_cons_eq, List.lookup_append,
      lookup_of_keys hidField.keys (show "params" ≠ "id" by decide)]
  have hidRead : members.lookup "id" = idField.lookup "id" := by
    simp [hlookup, Json.lookup_cons_eq, List.lookup_append,
      lookup_of_keys hparams.keys (show "id" ≠ "params" by decide)]
  refine ⟨_, Request.Draft.request?_ofMembers hmethod (id_of_writes hidField hid hidRead), rfl, ?_⟩
  rw [hparamsRead]
  exact hparams.payload_eq id

end Payload

/-! ## Every command can be written -/

open Json (Plain plain_str plain_arr plain_ofMembers)

theorem exists_writesOptional {α : Type} {n : Nat} (key : String) (toJson : α → Json)
    (value : Option α) (hplain : ∀ v, value = some v → Plain n (toJson v)) :
    ∃ fields, WritesOptional key toJson value fields ∧ ∀ m ∈ fields, Plain n m.2 := by
  cases value with
  | none => exact ⟨[], .omitted, List.forall_mem_nil _⟩
  | some v => exact ⟨_, .given v, List.forall_mem_singleton.mpr (hplain v rfl)⟩

theorem exists_writesText (n : Nat) (key : String) (text : Option String) :
    ∃ fields, WritesOptional key .str text fields ∧ ∀ m ∈ fields, Plain n m.2 :=
  exists_writesOptional key .str text fun s _ => plain_str s

theorem Argument.exists_writes (n : Nat) (a : Argument) : ∃ v, a.Writes v ∧ Plain (n + 1) v := by
  obtain ⟨value, hvalue, hplain⟩ := exists_writesText n "value" a.value
  exact ⟨_, .mk hvalue (.refl _),
    plain_ofMembers (List.forall_mem_cons.mpr ⟨plain_str a.name, hplain⟩)⟩

theorem SubCommand.exists_writes (n : Nat) (c : SubCommand) :
    ∃ v, c.Writes v ∧ Plain (n + 3) v := by
  have hitems (arguments : List Argument) :
      ∃ items, List.Forall₂ Argument.Writes arguments items ∧ ∀ v ∈ items, Plain (n + 1) v := by
    induction arguments with
    | nil => exact ⟨[], .nil, List.forall_mem_nil _⟩
    | cons a rest ih =>
        obtain ⟨v, hv, hplain⟩ := a.exists_writes n
        obtain ⟨items, hitems, hrest⟩ := ih
        exact ⟨_, .cons hv hitems, List.forall_mem_cons.mpr ⟨hplain, hrest⟩⟩
  obtain ⟨items, hitems, hplain⟩ := hitems c.arguments
  exact ⟨_, .mk (.given hitems) (.refl _), plain_ofMembers (List.forall_mem_cons.mpr
    ⟨plain_str c.name, List.forall_mem_singleton.mpr (plain_arr hplain)⟩)⟩

namespace Payload

theorem exists_writesFields (n : Nat) (p : Payload) :
    ∃ fields, p.WritesFields fields ∧ ∀ m ∈ fields, Plain (n + 3) m.2 := by
  cases p with
  | listAdapters => exact ⟨[], .listAdapters, List.forall_mem_nil _⟩
  | scan adapter =>
      obtain ⟨fields, hfields, hplain⟩ := exists_writesText (n + 3) "adapter" adapter
      exact ⟨_, .scan hfields, hplain⟩
  | sendCommand adapter destination timeout command =>
      obtain ⟨fields, hfields, hplain⟩ := exists_writesText (n + 3) "adapter" adapter
      obtain ⟨v, hv, hcommand⟩ := command.exists_writes n
      have htimeout : Plain (n + 3) (.int timeout.toNat) :=
        ⟨.int ⟨by omega, by have hlt := timeout.toNat_lt; omega⟩, rfl⟩
      refine ⟨_, .sendCommand hfields (.given timeout) hv, List.forall_mem_append.mpr ⟨?_, ?_⟩⟩
      · exact List.forall_mem_cons.mpr ⟨plain_str _, List.forall_mem_cons.mpr ⟨hcommand, hplain⟩⟩
      · exact List.forall_mem_singleton.mpr htimeout
  | getConfig key adapter =>
      obtain ⟨fields, hfields, hplain⟩ := exists_writesText (n + 3) "adapter" adapter
      exact ⟨_, .getConfig hfields, List.forall_mem_cons.mpr ⟨plain_str _, hplain⟩⟩
  | setConfig key value adapter =>
      obtain ⟨fields, hfields, hplain⟩ := exists_writesText (n + 3) "adapter" adapter
      exact ⟨_, .setConfig hfields,
        List.forall_mem_cons.mpr ⟨plain_str _, List.forall_mem_cons.mpr ⟨plain_str _, hplain⟩⟩⟩

/-- A request can be written for every command, with every identifier that nests as deep as a line
may. -/
theorem exists_writesLine (p : Payload) (id : Option Json)
    (hid : ∀ v, id = some v → Plain 126 v) : ∃ line, p.WritesLine id line := by
  obtain ⟨fields, hfields, hplain⟩ := p.exists_writesFields 122
  obtain ⟨idField, hidField, hidPlain⟩ := exists_writesOptional "id" (fun v => v) id hid
  have hmembers : ∀ m ∈ ("method", .str p.kind.name) ::
      ([("params", .ofMembers fields)] ++ idField), Plain 126 m.2 :=
    List.forall_mem_cons.mpr ⟨plain_str _, List.forall_mem_append.mpr
      ⟨List.forall_mem_singleton.mpr (plain_ofMembers hplain), hidPlain⟩⟩
  have hw := Json.spells_members
    (List.forall₂_same.mpr fun m hm => ⟨rfl, (hmembers m hm).spells⟩) (List.cons_ne_nil _ _)
  exact ⟨_, .mk (.mk (.given hfields (.refl _)) hidField (.refl _)) hw (List.nil_subset _)
    (List.nil_subset _)⟩

end Payload

/-- However a command has been written as a request, with whatever identifier, it is what is read
from the line. -/
theorem request_is_decoded (p : Payload) (id : Option Json) (hid : id ≠ some .null)
    (line : List UInt8) (hline : p.WritesLine id line) (hsize : line.length ≤ Request.maxBytes) :
    ∃ r, Request.parse line = .ok r ∧ r.id = id ∧ r.payload = .ok p := by
  obtain ⟨hmembers, hw, hbefore, hafter⟩ := hline
  obtain ⟨hfields, hnodup⟩ := hmembers.isField
  obtain ⟨r, hrequest, hanswer⟩ := hmembers.request? hid
  exact ⟨r, Request.parse_of_spells hw hbefore hfields hnodup hrequest hafter hsize, hanswer⟩

/-- Blanks, an escape and members out of order. -/
def escapedLine : List UInt8 :=
  let params := "\x7b\"value\":\"\\u00E9\",\"key\":\"osd_name\"\x7d".toList
  Utf8.encode ("\x7b\"id\": [7],\"params\":".toList ++ params ++
    ",\"method\":\"setConfig\"\x7d".toList) ++ [13, 10]

theorem escapedLine_is_decoded :
    ∃ r, Request.parse escapedLine = .ok r ∧ r.id = some (.arr [.int 7]) ∧
      r.payload = .ok (.setConfig "osd_name" "é" none) := by
  have hunit : Json.SpellsUnit 233 ['0', '0', 'E', '9'] :=
    .mk (p := 0) (q := 0) (r := 14) (s := 9) (.inl rfl) (.inl rfl) (.inr rfl) (.inl rfl)
  have htext : Json.SpellsText ['é'] ("\\u00E9".toList ++ []) := .cons (.unit hunit) .nil
  have hvalue : Json.Spells 125 (.str "é") "\"\\u00E9\"".toList := .str (s := "é") htext
  have hparams : Json.Spells 126 (.ofMembers [("value", .str "é"), ("key", .str "osd_name")])
      "\x7b\"value\":\"\\u00E9\",\"key\":\"osd_name\"\x7d".toList :=
    .obj (.cons (Json.spells_quote "value") hvalue
      (.last (Json.spells_quote "key") (Json.spells_quote "osd_name")))
  have hid : Json.Spells 126 (.arr [.int 7]) " [7]".toList :=
    .blankBefore (by decide) (.arr (.last (.int ⟨by decide, by decide⟩)))
  have hw := Json.SpellsMembers.cons (Json.spells_quote "id") hid
    (.cons (Json.spells_quote "params") hparams
      (.last (Json.spells_quote "method") (Json.spells_quote "setConfig")))
  have hfields : (Payload.setConfig "osd_name" "é" none).WritesFields _ := .setConfig .omitted
  have hmembers : (Payload.setConfig "osd_name" "é" none).WritesEnvelope (some (.arr [.int 7]))
      [("id", .arr [.int 7]),
        ("params", .ofMembers [("value", .str "é"), ("key", .str "osd_name")]),
        ("method", .str "setConfig")] :=
    .mk (.given hfields (.swap _ _ [])) (.given _) (List.reverse_perm [_, _, _])
  have hline : (Payload.setConfig "osd_name" "é" none).WritesLine (some (.arr [.int 7]))
      escapedLine := .mk hmembers hw (List.nil_subset _) (by decide)
  exact request_is_decoded _ _ (by simp) escapedLine hline (by decide)

end CecGateway
