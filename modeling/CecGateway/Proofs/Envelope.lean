import CecGateway.Proofs.Decoding
import CecGateway.Proofs.Json.Extent

/-!
# The identifier of an envelope

The members of the object on a line depend on its text alone: every value goes as far as it would if
it were skipped, whether it is kept or not. A request has at most one identifier among them, and
keeps the value that is spelled at its place, or nothing if that is `null` (`Identifies.id_eq`).
-/

namespace CecGateway.Request

open Json (Input Spells Plain)
open Utf8 (Piece)

/-! ## Members and their places -/

/-- A member starts with its key, and ends with the value at its place. -/
inductive Member : Input → String → Input → Input → Prop
  | mk {input behind place left : Input} {key : String}
      (hkey : Json.string input = some (key, behind)) (hcolon : Json.token ':' behind = some place)
      (hvalue : Json.skip place = some left) : Member input key place left

/-- These are the members up to the end of the object, each with the place of its value. -/
inductive Lists : Input → List (String × Input) → Input → Prop
  | last {input place left rest : Input} {key : String} (hmember : Member input key place left)
      (hclose : Json.token '\x7d' left = some rest) : Lists input [(key, place)] rest
  | cons {input place left next rest : Input} {key : String} {fields : List (String × Input)}
      (hmember : Member input key place left) (hcomma : Json.token ',' left = some next)
      (hrest : Lists next fields rest) : Lists input ((key, place) :: fields) rest

/-- Nothing stands on the line but an object with these members. -/
inductive HasFields (line : List UInt8) (fields : List (String × Input)) : Prop
  | mk {inside rest : Input}
      (hopen : Json.token '\x7b' (Utf8.decode (trimEnd line)) = some inside)
      (hlists : Lists inside fields rest) (hend : Json.skipSpace rest = [])

def places (key : String) (fields : List (String × Input)) : List Input :=
  (fields.filter (·.1 = key)).map (·.2)

section

variable {input place left rest behind : Input} {key other : String}
  {fields others : List (String × Input)} {line : List UInt8}

theorem Member.unique {further ending : Input} (h : Member input key place left)
    (hother : Member input other further ending) :
    key = other ∧ place = further ∧ left = ending := by
  obtain ⟨hkey, hcolon, hvalue⟩ := h
  obtain ⟨hkey', hcolon', hvalue'⟩ := hother
  obtain ⟨rfl, rfl⟩ := Prod.mk.inj (Option.some_inj.mp (hkey.symm.trans hkey'))
  obtain rfl := Option.some_inj.mp (hcolon.symm.trans hcolon')
  exact ⟨rfl, rfl, Option.some_inj.mp (hvalue.symm.trans hvalue')⟩

theorem Lists.unique (h : Lists input fields rest) (hother : Lists input others behind) :
    fields = others ∧ rest = behind := by
  have hmarks {input next rest : Input} (hcomma : Json.token ',' input = some next)
      (hclose : Json.token '\x7d' input = some rest) : False := by
    have hnone := Json.token_ne_of_skipSpace (Json.skipSpace_of_token hclose)
      (show '\x7d' ≠ ',' by decide)
    exact absurd (hcomma.symm.trans hnone) (by simp)
  induction h generalizing others with
  | last hmember hclose =>
      cases hother with
      | last hmember' hclose' =>
          obtain ⟨rfl, rfl, rfl⟩ := hmember.unique hmember'
          exact ⟨rfl, Option.some_inj.mp (hclose.symm.trans hclose')⟩
      | cons hmember' hcomma =>
          obtain ⟨rfl, rfl, rfl⟩ := hmember.unique hmember'
          exact (hmarks hcomma hclose).elim
  | cons hmember hcomma hrest ih =>
      cases hother with
      | last hmember' hclose =>
          obtain ⟨rfl, rfl, rfl⟩ := hmember.unique hmember'
          exact (hmarks hcomma hclose).elim
      | cons hmember' hcomma' hrest' =>
          obtain ⟨rfl, rfl, rfl⟩ := hmember.unique hmember'
          obtain rfl := Option.some_inj.mp (hcomma.symm.trans hcomma')
          obtain ⟨rfl, rfl⟩ := ih hrest'
          exact ⟨rfl, rfl⟩

theorem HasFields.unique (h : HasFields line fields) (hother : HasFields line others) :
    fields = others := by
  obtain ⟨hopen, hlists, -⟩ := h
  obtain ⟨hopen', hlists', -⟩ := hother
  obtain rfl := Option.some_inj.mp (hopen.symm.trans hopen')
  exact (hlists.unique hlists').1

end

/-! ## Reading the members -/

section

variable {draft final next : Draft} {key : String} {input place left rest : Input} {fuel : Nat}
  {fields : List (String × Input)}

theorem skip_of_keptValue {v : Json} (h : keptValue place = some (v, left)) :
    Json.skip place = some left :=
  Json.skip_of_reads (Json.reads_of_value h)

theorem keptValue_of_identifier {id : Option Json} (h : identifier place = some (id, left)) :
    ∃ v, keptValue place = some (v, left) ∧ (v = .null ∧ id = none ∨ v ≠ .null ∧ id = some v) := by
  obtain ⟨⟨v, behind⟩, hv, h⟩ := Option.bind_eq_some_iff.mp h
  obtain ⟨rfl, rfl⟩ := Prod.mk.inj (Option.some_inj.mp h)
  refine ⟨v, hv, ?_⟩
  cases v <;> simp

/-- What reading a member does to the identifier of a draft. -/
theorem cases_of_field (h : field draft key place = some (next, left)) :
    Json.skip place = some left ∧
      (key ≠ "id" ∧ next.id = draft.id ∨
        key = "id" ∧ draft.id = none ∧ ∃ id, identifier place = some (id, left) ∧
          next.id = some id) := by
  unfold field at h
  split at h
  · dsimp only at h
    split_ifs at h
    · contradiction
    · obtain ⟨⟨name, behind⟩, hname, h⟩ := Option.bind_eq_some_iff.mp h
      obtain ⟨rfl, rfl⟩ := Prod.mk.inj (Option.some_inj.mp h)
      exact ⟨Json.skip_of_reads (Json.reads_of_string (n := 0) hname), .inl ⟨by decide, rfl⟩⟩
  · dsimp only at h
    split_ifs at h
    · contradiction
    · obtain ⟨⟨params, behind⟩, hparams, h⟩ := Option.bind_eq_some_iff.mp h
      obtain ⟨rfl, rfl⟩ := Prod.mk.inj (Option.some_inj.mp h)
      exact ⟨skip_of_keptValue hparams, .inl ⟨by decide, rfl⟩⟩
  · dsimp only at h
    split_ifs at h with hid
    · contradiction
    · obtain ⟨⟨id, behind⟩, hread, h⟩ := Option.bind_eq_some_iff.mp h
      obtain ⟨rfl, rfl⟩ := Prod.mk.inj (Option.some_inj.mp h)
      obtain ⟨v, hv, -⟩ := keptValue_of_identifier hread
      exact ⟨skip_of_keptValue hv, .inr ⟨rfl, by simpa using hid, id, hread, rfl⟩⟩
  · next hid =>
      obtain ⟨behind, hskip, h⟩ := Option.bind_eq_some_iff.mp h
      obtain ⟨rfl, rfl⟩ := Prod.mk.inj (Option.some_inj.mp h)
      exact ⟨hskip, .inl ⟨hid, rfl⟩⟩

theorem places_cons (key other : String) (place : Input) (fields : List (String × Input)) :
    places key ((other, place) :: fields) =
      if other = key then place :: places key fields else places key fields := by
  by_cases hkey : other = key <;> simp [places, hkey]

/-- What reading members does to it: only one of them can be an identifier, in a draft that has none
yet. -/
theorem lists_of_envelopeFields (h : envelopeFields fuel draft input = some (final, rest)) :
    ∃ fields, Lists input fields rest ∧
      (places "id" fields = [] ∧ final.id = draft.id ∨
        draft.id = none ∧ ∃ place id left, places "id" fields = [place] ∧
          identifier place = some (id, left) ∧ final.id = some id) := by
  induction fuel generalizing draft input with
  | zero => contradiction
  | succ fuel ih =>
      obtain ⟨⟨key, behind⟩, hkey, h⟩ := Option.bind_eq_some_iff.mp h
      obtain ⟨place, hcolon, h⟩ := Option.bind_eq_some_iff.mp h
      obtain ⟨⟨next, left⟩, hfield, h⟩ := Option.bind_eq_some_iff.mp h
      obtain ⟨hskip, hcases⟩ := cases_of_field hfield
      have hmember : Member input key place left := .mk hkey hcolon hskip
      dsimp only at h
      split at h
      · next after hcomma =>
          obtain ⟨fields, hlists, hrest⟩ := ih h
          refine ⟨_, .cons hmember hcomma hlists, ?_⟩
          rw [places_cons]
          obtain ⟨hother, hsame⟩ | ⟨rfl, hnew, id, hread, hid⟩ := hcases
          · rwa [if_neg hother, ← hsame]
          · obtain ⟨hnone, hfinal⟩ | ⟨hnone, -⟩ := hrest
            · refine .inr ⟨hnew, place, id, left, ?_, hread, hfinal.trans hid⟩
              rw [if_pos rfl, hnone]
            · exact absurd (hid.symm.trans hnone) (by simp)
      · obtain ⟨after, hclose, h⟩ := Option.bind_eq_some_iff.mp h
        obtain ⟨rfl, rfl⟩ := Prod.mk.inj (Option.some_inj.mp h)
        refine ⟨_, .last hmember hclose, ?_⟩
        rw [places_cons]
        obtain ⟨hother, hsame⟩ | ⟨rfl, hnew, id, hread, hid⟩ := hcases
        · exact .inl ⟨by rw [if_neg hother]; rfl, hsame⟩
        · exact .inr ⟨hnew, place, id, left, by rw [if_pos rfl]; rfl, hread, hid⟩

end

/-! ## Lines -/

section

variable {line : List UInt8} {r : Request} {fields : List (String × Input)}

theorem exists_of_parse (h : parse line = .ok r) :
    ∃ draft rest, envelope (Utf8.decode (trimEnd line)) = some (draft, rest) ∧
      Json.skipSpace rest = [] ∧ draft.request? = some r := by
  unfold parse at h
  split_ifs at h
  split at h
  · next request hdocument =>
      obtain rfl := Except.ok.inj h
      obtain ⟨⟨draft, rest⟩, henvelope, h⟩ := Option.bind_eq_some_iff.mp hdocument
      dsimp only at h
      split_ifs at h with hend
      exact ⟨draft, rest, henvelope, List.isEmpty_iff.mp hend, h⟩
  · contradiction

/-- What is read of the identifiers among these members, of which there is one at most. -/
inductive KeepsId (fields : List (String × Input)) : Option Json → Prop
  | omitted (hnone : places "id" fields = []) : KeepsId fields none
  | given {place left : Input} {id : Option Json} (hone : places "id" fields = [place])
      (hread : identifier place = some (id, left)) : KeepsId fields id

/-- A request that is written as an object has its members, and keeps their identifier. -/
theorem fields_of_parse (h : parse line = .ok r) {inside : Input}
    (hobject : Json.token '\x7b' (Utf8.decode (trimEnd line)) = some inside) :
    ∃ fields, HasFields line fields ∧ KeepsId fields r.id := by
  obtain ⟨draft, rest, henvelope, hend, hrequest⟩ := exists_of_parse h
  obtain ⟨method, hmethod, hrequest⟩ := Option.bind_eq_some_iff.mp hrequest
  obtain rfl := Option.some_inj.mp hrequest
  simp only [envelope, Json.skipSpace_of_token hobject] at henvelope
  split at henvelope
  · obtain ⟨rfl, -⟩ := Prod.mk.inj (Option.some_inj.mp henvelope)
    contradiction
  · obtain ⟨fields, hlists, hcases⟩ := lists_of_envelopeFields henvelope
    refine ⟨fields, .mk hobject hlists hend, ?_⟩
    obtain ⟨hnone, hid⟩ | ⟨-, place, id, left, hone, hread, hid⟩ := hcases
    · rw [hid]
      exact .omitted hnone
    · rw [hid]
      exact .given hone hread

theorem HasFields.keepsId (hfields : HasFields line fields) (h : parse line = .ok r) :
    KeepsId fields r.id := by
  obtain ⟨hopen, hlists, hend⟩ := hfields
  obtain ⟨others, hothers, hkeeps⟩ := fields_of_parse h hopen
  obtain rfl := (HasFields.mk hopen hlists hend).unique hothers
  exact hkeeps

end

/-! ## The identifier -/

/-- The value is spelled at its place, up to the mark behind it. -/
inductive SpelledAt (v : Json) : Input → Prop
  | mk {n : Nat} {w : List Char} {mark : Char} {rest : Input} (hw : Spells n v w)
      (hmark : mark ∈ [',', '\x7d']) : SpelledAt v (w.map Piece.char ++ .char mark :: rest)

/-- A request with no identifier, or with just one, of this value. -/
inductive Identifies (line : List UInt8) : Option Json → Prop
  | omitted {r : Request} {fields : List (String × Input)} (hrequest : parse line = .ok r)
      (hfields : HasFields line fields) (hnone : places "id" fields = []) : Identifies line none
  | given {r : Request} {fields : List (String × Input)} {place : Input} {v : Json}
      (hrequest : parse line = .ok r) (hfields : HasFields line fields)
      (hone : places "id" fields = [place]) (hv : SpelledAt v place) : Identifies line (some v)

theorem endsNumeral_behind {mark : Char} (hmark : mark ∈ [',', '\x7d']) (rest : Input) :
    Json.EndsNumeral (.char mark :: rest) :=
  Json.endsNumeral_of_mark mark (List.cons_subset_cons _ (List.subset_cons_self _ _) hmark) rest

section

variable {line : List UInt8} {place left : Input} {v : Json}

/-- What is kept is what is spelled, and it nests no deeper than a line may. -/
theorem SpelledAt.keptValue_eq (h : SpelledAt v place) {kept : Json}
    (hread : keptValue place = some (kept, left)) : kept = v ∧ v.Plain 126 := by
  obtain ⟨hw, hmark⟩ := h
  rename_i n w mark rest
  have hreads : Json.Reads 126 _ kept left := Json.reads_of_value hread
  have hfuel : w.length ≤ Json.fuelFor (w.map Piece.char ++ .char mark :: rest) := by
    simp only [Json.fuelFor, List.length_append, List.length_map]
    omega
  -- a reader that may go deep enough for the spelling reads both
  have hkept := Json.value_of_reads hreads (max 126 n + 1) _ (by omega) (Json.lt_fuelFor _)
  obtain ⟨behind, hspelled, -⟩ :=
    Json.value_of_spells hw (max 126 n + 1) _ _ (by omega) hfuel (endsNumeral_behind hmark rest)
  obtain ⟨rfl, -⟩ := Prod.mk.inj (Option.some_inj.mp (hkept.symm.trans hspelled))
  exact ⟨rfl, hreads.floatless hw.plain.floatless, hw.plain.sorted_eq⟩

/-- A request has the identifier of its line, unless that is `null`. -/
theorem Identifies.id_eq {id? : Option Json} (h : Identifies line id?) :
    ∃ r, parse line = .ok r ∧ (id? = some .null ∧ r.id = none ∨ id? ≠ some .null ∧ r.id = id?) ∧
      ∀ v, r.id = some v → v.Plain 126 := by
  cases h with
  | @omitted r fields hrequest hfields hnone =>
      refine ⟨r, hrequest, ?_⟩
      have hkeeps := hfields.keepsId hrequest
      generalize r.id = id at hkeeps ⊢
      cases hkeeps with
      | omitted => simp
      | given hone => simp [hnone] at hone
  | @given r fields place v hrequest hfields hone hv =>
      refine ⟨r, hrequest, ?_⟩
      have hkeeps := hfields.keepsId hrequest
      generalize r.id = id at hkeeps ⊢
      cases hkeeps with
      | omitted hnone => simp [hone] at hnone
      | given hfound hread =>
          obtain ⟨rfl, -⟩ := List.cons.inj (hone.symm.trans hfound)
          obtain ⟨kept, hkept, hcases⟩ := keptValue_of_identifier hread
          obtain ⟨rfl, hplain⟩ := hv.keptValue_eq hkept
          obtain ⟨rfl, rfl⟩ | ⟨hgiven, rfl⟩ := hcases
          · simp
          · simp [hgiven, hplain]

end

/-! ## Envelopes that are spelled -/

/-- A member of this key and value has its value spelled at its place. -/
def Stands (member : String × Json) (field : String × Input) : Prop :=
  member.1 = field.1 ∧ SpelledAt member.2 field.2

theorem Member.of_spells {n : Nat} {key : String} {v : Json} {k w : List Char} {mark : Char}
    (hk : Spells n (.str key) k) (hw : Spells n v w) (hmark : mark ∈ [',', '\x7d']) (rest : Input) :
    let place : Input := w.map Piece.char ++ .char mark :: rest
    ∃ left, Member ((k ++ ':' :: w).map Piece.char ++ .char mark :: rest) key place left ∧
      Json.token mark left = some rest ∧ Stands (key, v) (key, place) := by
  intro place
  obtain ⟨behind, hkey, hbehind⟩ := Json.string_of_spells hk (.char ':' :: place)
  obtain ⟨left, hread, hleft⟩ := Json.value_of_spells hw (n + 1) w.length _ (Nat.lt_succ_self n)
    (Nat.le_refl _) (endsNumeral_behind hmark rest)
  have hblank : mark ∉ Json.blanks := by
    simp only [List.mem_cons, List.not_mem_nil, or_false] at hmark
    obtain rfl | rfl := hmark <;> decide
  have hcolon := Json.token_of_left ':' (by decide) hbehind
  have hskip := Json.skip_of_reads (Json.reads_of_value hread)
  exact ⟨left, .mk (by simpa [place] using hkey) hcolon hskip, Json.token_of_left mark hblank hleft,
    rfl, .mk hw hmark⟩

theorem lists_of_spells {n : Nat} {members : List (String × Json)} {w : List Char} :
    Json.SpellsMembers n members w → ∀ rest, ∃ fields,
      Lists (w.map Piece.char ++ .char '\x7d' :: rest) fields rest ∧
        List.Forall₂ Stands members fields
  | .last hk hw, rest => by
      obtain ⟨left, hmember, hclose, hstands⟩ :=
        Member.of_spells hk hw (show '\x7d' ∈ [',', '\x7d'] by decide) rest
      exact ⟨_, .last hmember hclose, .cons hstands .nil⟩
  | @Json.SpellsMembers.cons _ _ _ _ _ _ ws hk hw hws, rest => by
      obtain ⟨fields, hlists, hstand⟩ := lists_of_spells hws rest
      obtain ⟨left, hmember, hcomma, hstands⟩ :=
        Member.of_spells hk hw (show ',' ∈ [',', '\x7d'] by decide)
          (ws.map Piece.char ++ .char '\x7d' :: rest)
      refine ⟨_, ?_, .cons hstands hstand⟩
      simpa using Lists.cons hmember hcomma hlists

/-- The places of a key are where the values of its members are spelled. -/
theorem spelledAt_places {members : List (String × Json)} {fields : List (String × Input)}
    (h : List.Forall₂ Stands members fields) (key : String) :
    List.Forall₂ SpelledAt ((members.filter (·.1 = key)).map (·.2)) (places key fields) := by
  induction h with
  | nil => exact .nil
  | @cons m f _ _ hfirst _ ih =>
      obtain ⟨other, place⟩ := f
      obtain ⟨hkey, hspelled⟩ := hfirst
      rw [places_cons, List.filter_cons, hkey]
      by_cases hsame : other = key <;> simp [hsame, hspelled, ih]

/-- A request whose envelope is spelled has the identifier that is among its members. -/
theorem identifies_of_spells {n : Nat} {members : List (String × Json)} {w before : List Char}
    {after : List UInt8} (hw : Json.SpellsMembers n members w) (hbefore : before ⊆ Json.blanks)
    (hafter : after ⊆ [32, 9, 10, 12, 13]) {r : Request} {id? : Option Json}
    (hrequest : parse (Utf8.encode (before ++ '\x7b' :: w ++ ['\x7d']) ++ after) = .ok r)
    (hid : (members.filter (·.1 = "id")).map (·.2) = id?.toList) :
    Identifies (Utf8.encode (before ++ '\x7b' :: w ++ ['\x7d']) ++ after) id? := by
  obtain ⟨fields, hlists, hstand⟩ := lists_of_spells hw []
  have hopen : Json.token '\x7b' ((before ++ '\x7b' :: w ++ ['\x7d']).map Piece.char) =
      some (w.map Piece.char ++ [.char '\x7d']) := by
    refine Json.token_of_skipSpace ?_
    rw [List.append_assoc, List.map_append, Json.skipSpace_of_blanks hbefore]
    simp [Json.skipSpace_of_not_blank (show '\x7b' ∉ Json.blanks by decide)]
  have hfields : HasFields (Utf8.encode (before ++ '\x7b' :: w ++ ['\x7d']) ++ after) fields := by
    refine .mk ?_ hlists rfl
    rw [trimEnd_closed _ hafter, Utf8.decode_encode, hopen]
  have hplaces := spelledAt_places hstand "id"
  rw [hid] at hplaces
  cases id? with
  | none => exact .omitted hrequest hfields (List.forall₂_nil_left_iff.mp hplaces)
  | some v =>
      obtain ⟨place, others, hspelled, hnone, hone⟩ := List.forall₂_cons_left_iff.mp hplaces
      obtain rfl := List.forall₂_nil_left_iff.mp hnone
      exact .given hrequest hfields hone hspelled

end CecGateway.Request
