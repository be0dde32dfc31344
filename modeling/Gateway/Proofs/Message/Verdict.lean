import Gateway.Proofs.Json.Reading
import Gateway.Proofs.Message.RoundTrip
import Mathlib.Algebra.Group.Nat.Defs

/-! # What a message is decoded as

Every byte string has one verdict, which its form decides: whether it is a JSON text at all, and if so, what
stands in the last fields of the header's names and whether the type named there reads the object. It is no
JSON text if an escape in a string spells a surrogate that is not one of a pair, or if a number denotes
nothing. A number in the header is an integer only if it is written as one: without a point or a power of
ten, and not as negative zero.
-/

namespace Gateway.Codec

open Json (Form last? IsTextOf)

/-- Whether fields name a type: the last field of the name is a string that is not empty. -/
def NamesKind (fields : List (String × Form)) (kind : String) : Prop :=
  last? "type" fields = some (.string kind) ∧ kind ≠ ""

/-- Whether fields carry an id: zero if it is missing or null. -/
inductive CarriesId (fields : List (String × Form)) : Int64 → Prop where
  | missing : last? "id" fields = none → CarriesId fields 0
  | null : last? "id" fields = some .null → CarriesId fields 0
  | integer {literal : Json.Literal} {id : Int64} : last? "id" fields = some (.number literal) →
      literal.IsInteger id.toInt → CarriesId fields id

/-- Whether fields claim an identity, or none if it is missing or null. -/
inductive ClaimsIdentity (fields : List (String × Form)) : Option Identity → Prop where
  | missing : last? "systemId" fields = none → ClaimsIdentity fields none
  | null : last? "systemId" fields = some .null → ClaimsIdentity fields none
  | integer {literal : Json.Literal} {id : Identity} :
      last? "systemId" fields = some (.number literal) → literal.IsInteger id.value.toNat →
      ClaimsIdentity fields (some id)

/-- What a byte string is decoded as. -/
inductive Verdict (codec : Codec) (bytes : Bytes) : Except CodecError Envelope → Prop where
  /-- Bytes that are all white space are no message. -/
  | blank : bytes.all isBlankByte = true → Verdict codec bytes (.error .noMessage)
  /-- The text of null is no message. -/
  | null : IsTextOf bytes .null → Verdict codec bytes (.error .noMessage)
  /-- Other bytes have to be the text of some form. -/
  | garbled : bytes.all isBlankByte = false → (∀ form, ¬ IsTextOf bytes form) →
      Verdict codec bytes (.error (.malformedBody none))
  /-- The form has to be an object that names a type. -/
  | untyped {form : Form} : IsTextOf bytes form → form ≠ .null →
      (∀ fields kind, form = .object fields → ¬ NamesKind fields kind) →
      Verdict codec bytes (.error .noType)
  /-- The type has to be in the table. -/
  | unknown {fields : List (String × Form)} {kind : String} : IsTextOf bytes (.object fields) →
      NamesKind fields kind → codec.types.get? kind = none →
      Verdict codec bytes (.error (.unknownType kind))
  /-- The header has to be one, and the value of the object a body of the type. -/
  | malformed {fields : List (String × Form)} {kind : String} {bodyType : BodyType} {value : Json} :
      IsTextOf bytes (.object fields) → NamesKind fields kind →
      codec.types.get? kind = some bodyType → (Form.object fields).Denotes value →
      (∀ id, ¬ CarriesId fields id) ∨ (∀ identity, ¬ ClaimsIdentity fields identity) ∨
        bodyType.read? value = none →
      Verdict codec bytes (.error (.malformedBody (some kind)))
  /-- Then the message is the envelope of these parts. -/
  | decoded {fields : List (String × Form)} {kind : String} {bodyType : BodyType} {id : Int64}
      {identity : Option Identity} {value : Json} {body : Body} : IsTextOf bytes (.object fields) →
      NamesKind fields kind → codec.types.get? kind = some bodyType → CarriesId fields id →
      ClaimsIdentity fields identity → (Form.object fields).Denotes value →
      bodyType.read? value = some body →
      Verdict codec bytes (.ok ⟨kind, id, identity, none, ⟨none, none⟩, body⟩)

theorem readKind?_eq_some_iff {fields : List (String × Json)} {kind : String} :
    readKind? fields = some kind ↔
      Json.findField "type" fields = some (.string kind) ∧ kind ≠ "" := by
  rw [readKind?]
  cases Json.findField "type" fields with
  | none => simp
  | some value =>
    cases value with
    | string other =>
      by_cases empty : other = ""
      · simp [empty, eq_comm]
      · simp only [empty, if_false, Option.some.injEq, Json.string.injEq]
        constructor
        · rintro rfl
          exact ⟨rfl, empty⟩
        · exact And.left
    | _ => simp

theorem readId?_eq_some_iff {fields : List (String × Json)} {id : Int64} :
    readId? fields = some id ↔
      (Json.findField "id" fields = none ∨ Json.findField "id" fields = some .null) ∧ id = 0 ∨
        Json.findField "id" fields = some (.int id.toInt) := by
  rw [readId?]
  cases Json.findField "id" fields with
  | none => simp [eq_comm]
  | some value =>
    cases value with
    | null => simp [eq_comm]
    | int value =>
      simp only [reduceCtorEq, Option.some.injEq, or_self, false_and, false_or, Json.int.injEq]
      split_ifs with bounds
      · rw [Option.some.injEq, ← Int64.toInt_inj,
          Int64.toInt_ofInt_of_le bounds.1 (Int.lt_of_le_of_lt bounds.2 (by decide))]
      · simp only [false_iff]
        rintro rfl
        exact bounds ⟨Int64.minValue_le_toInt id, Int64.toInt_le id⟩
    | _ => simp

theorem readIdentity?_eq_some_iff {fields : List (String × Json)} {identity : Option Identity} :
    readIdentity? fields = some identity ↔
      (Json.findField "systemId" fields = none ∨ Json.findField "systemId" fields = some .null) ∧
          identity = none ∨
        ∃ id, Json.findField "systemId" fields = some (.int id.value.toNat) ∧ identity = some id := by
  rw [readIdentity?]
  cases Json.findField "systemId" fields with
  | none => simp [eq_comm]
  | some value =>
    cases value with
    | null => simp [eq_comm]
    | int value =>
      simp only [reduceCtorEq, Option.some.injEq, or_self, false_and, false_or, Json.int.injEq]
      split_ifs with bounds
      · obtain ⟨n, rfl⟩ := Int.eq_ofNat_of_zero_le bounds.1
        have small : n < UInt64.size := by omega
        have back : (UInt64.ofNat n).toNat = n := UInt64.toNat_ofNat_of_lt' small
        constructor
        · rintro ⟨⟩
          exact ⟨⟨UInt64.ofNat n⟩, by simp [back], by simp⟩
        · rintro ⟨id, same, rfl⟩
          obtain rfl : n = id.value.toNat := by omega
          simp
      · simp only [false_iff, not_exists, not_and]
        rintro id rfl
        have high := id.value.toNat_lt_size
        exact absurd ⟨Int.natCast_nonneg _, by exact_mod_cast high⟩ bounds
    | _ => simp

section Object

variable {fields : List (String × Form)}

/-- The fields of the value of an object. -/
abbrev valueFields (fields : List (String × Form)) : List (String × Json) :=
  Json.sortFields (Form.fieldValues fields)

theorem namesKind_iff {kind : String} :
    readKind? (valueFields fields) = some kind ↔ NamesKind fields kind := by
  simp only [readKind?_eq_some_iff, Form.findField_sortFields_fieldValues, Option.map_eq_some_iff,
    Form.value_eq_string_iff, exists_eq_right, NamesKind]

theorem null_iff (range : (Form.object fields).InRange) {name : String} :
    (last? name fields).map Form.value = some .null ↔ last? name fields = some .null := by
  constructor
  · intro found
    obtain ⟨form, last, null⟩ := Option.map_eq_some_iff.mp found
    rwa [(Form.value_eq_null_iff (range.last? last)).mp null] at last
  · intro found
    rw [found, Option.map_some, Form.value]

theorem carriesId_iff (range : (Form.object fields).InRange) {id : Int64} :
    readId? (valueFields fields) = some id ↔ CarriesId fields id := by
  rw [readId?_eq_some_iff, Form.findField_sortFields_fieldValues, Option.map_eq_none_iff,
    null_iff range]
  constructor
  · rintro (⟨missing | null, rfl⟩ | found)
    · exact .missing missing
    · exact .null null
    · obtain ⟨form, last, whole⟩ := Option.map_eq_some_iff.mp found
      obtain ⟨literal, rfl, integer⟩ := Form.value_eq_int_iff.mp whole
      exact .integer last integer
  · rintro (missing | null | ⟨last, integer⟩)
    · exact .inl ⟨.inl missing, rfl⟩
    · exact .inl ⟨.inr null, rfl⟩
    · exact .inr (by rw [last, Option.map_some, Form.value_eq_int_iff.mpr ⟨_, rfl, integer⟩])

theorem claimsIdentity_iff (range : (Form.object fields).InRange) {identity : Option Identity} :
    readIdentity? (valueFields fields) = some identity ↔ ClaimsIdentity fields identity := by
  rw [readIdentity?_eq_some_iff, Form.findField_sortFields_fieldValues, Option.map_eq_none_iff,
    null_iff range]
  constructor
  · rintro (⟨missing | null, rfl⟩ | ⟨id, found, rfl⟩)
    · exact .missing missing
    · exact .null null
    · obtain ⟨form, last, whole⟩ := Option.map_eq_some_iff.mp found
      obtain ⟨literal, rfl, integer⟩ := Form.value_eq_int_iff.mp whole
      exact .integer last integer
  · rintro (missing | null | @⟨_, id, last, integer⟩)
    · exact .inl ⟨.inl missing, rfl⟩
    · exact .inl ⟨.inr null, rfl⟩
    · exact .inr ⟨id, by rw [last, Option.map_some, Form.value_eq_int_iff.mpr ⟨_, rfl, integer⟩],
        rfl⟩

end Object

variable (codec : Codec) {bytes : Bytes}

theorem decode_of_text {form : Form} (text : IsTextOf bytes form) :
    codec.decode bytes = codec.decodeJson form.value :=
  decode_of_parsed codec (Json.parse?_eq_some_iff.mpr ⟨form, text, rfl⟩)

theorem decode_of_object {fields : List (String × Form)} {kind : String}
    (text : IsTextOf bytes (.object fields)) (named : NamesKind fields kind) :
    codec.decode bytes =
      match codec.types.get? kind with
      | none => .error (.unknownType kind)
      | some bodyType =>
        match readEnvelope? bodyType kind (valueFields fields) with
        | none => .error (.malformedBody (some kind))
        | some envelope => .ok envelope := by
  have decoded := decode_of_text codec text
  rw [Form.value, Json.ofFields, decodeJson, namesKind_iff.mpr named] at decoded
  exact decoded

theorem readEnvelope?_eq_none_iff {bodyType : BodyType} {kind : String}
    {fields : List (String × Json)} :
    readEnvelope? bodyType kind fields = none ↔
      (∀ id, readId? fields ≠ some id) ∨ (∀ identity, readIdentity? fields ≠ some identity) ∨
        bodyType.read? (.object fields) = none := by
  rw [← Option.eq_none_iff_forall_ne_some, ← Option.eq_none_iff_forall_ne_some, readEnvelope?]
  cases readId? fields <;> cases readIdentity? fields <;>
    cases bodyType.read? (.object fields) <;> simp

/-- An object whose type is known is malformed exactly if one of its header fields is or it is no body of
the type. -/
theorem refused_iff {fields : List (String × Form)} {value : Json}
    (denotes : (Form.object fields).Denotes value) {bodyType : BodyType} {kind : String} :
    readEnvelope? bodyType kind (valueFields fields) = none ↔
      (∀ id, ¬ CarriesId fields id) ∨ (∀ identity, ¬ ClaimsIdentity fields identity) ∨
        bodyType.read? value = none := by
  obtain ⟨range, rfl⟩ := Form.denotes_iff.mp denotes
  simp only [readEnvelope?_eq_none_iff, ne_eq, carriesId_iff range, claimsIdentity_iff range]
  rfl

theorem decodeJson_of_nameless {fields : List (String × Form)}
    (nameless : ∀ kind, ¬ NamesKind fields kind) :
    codec.decodeJson (Form.object fields).value = .error .noType := by
  have unkinded : readKind? (valueFields fields) = none := by
    rw [Option.eq_none_iff_forall_ne_some]
    exact fun kind kinded => nameless kind (namesKind_iff.mp kinded)
  rw [Form.value, Json.ofFields, decodeJson, unkinded]

theorem verdict_of_object {fields : List (String × Form)}
    (text : IsTextOf bytes (.object fields)) : Verdict codec bytes (codec.decode bytes) := by
  by_cases kinded : ∃ kind, NamesKind fields kind
  · obtain ⟨kind, named⟩ := kinded
    rw [decode_of_object codec text named]
    cases registered : codec.types.get? kind with
    | none => exact .unknown text named registered
    | some bodyType =>
      simp only []
      have denotes : (Form.object fields).Denotes (Form.object fields).value :=
        Form.denotes_iff.mpr ⟨text.range, rfl⟩
      cases read : readEnvelope? bodyType kind (valueFields fields) with
      | none => exact .malformed text named registered denotes ((refused_iff denotes).mp read)
      | some envelope =>
        simp only [readEnvelope?, Option.bind_eq_bind, Option.bind_eq_some_iff,
          Option.some.injEq] at read
        obtain ⟨id, numbered, identity, claimed, body, bodied, rfl⟩ := read
        exact .decoded text named registered ((carriesId_iff text.range).mp numbered)
          ((claimsIdentity_iff text.range).mp claimed) denotes bodied
  · have nameless := not_exists.mp kinded
    rw [decode_of_text codec text, decodeJson_of_nameless codec nameless]
    refine .untyped text (by simp) ?_
    rintro _ kind ⟨⟩
    exact nameless kind

/-- Whatever is no object and not null has no type. -/
theorem decodeJson_of_other {form : Form} (range : form.InRange) (other : form ≠ .null)
    (flat : ∀ fields, form ≠ .object fields) : codec.decodeJson form.value = .error .noType := by
  cases form with
  | null => exact absurd rfl other
  | object fields => exact absurd rfl (flat fields)
  | number literal =>
    obtain ⟨value, denotes⟩ := range literal (by simp [Form.literals])
    have read := Json.value?_eq_some_iff.mpr denotes
    obtain ⟨n, rfl⟩ | ⟨x, rfl⟩ := Json.value?_cases read <;>
      rw [Form.value, read, Option.getD_some, decodeJson] <;> simp
  | _ => rw [Form.value, decodeJson] <;> simp

theorem verdict_decode (codec : Codec) (bytes : Bytes) :
    Verdict codec bytes (codec.decode bytes) := by
  cases visible : bytes.all isBlankByte with
  | true =>
    rw [decode, if_pos visible]
    exact .blank visible
  | false =>
    by_cases readable : ∃ form, IsTextOf bytes form
    · obtain ⟨form, text⟩ := readable
      cases form with
      | null =>
        rw [decode_of_text codec text, Form.value, decodeJson]
        exact .null text
      | object fields => exact verdict_of_object codec text
      | _ =>
        rw [decode_of_text codec text, decodeJson_of_other codec text.range (by simp) (by simp)]
        exact .untyped text (by simp) (by simp)
    · have unread := Json.parse?_eq_none_iff.mpr (not_exists.mp readable)
      rw [decode, visible, if_neg (by simp), unread]
      exact .garbled visible (not_exists.mp readable)

/-- A message is decoded as its verdict says. -/
theorem decode_eq_iff_verdict (codec : Codec) (bytes : Bytes) (result : Except CodecError Envelope) :
    codec.decode bytes = result ↔ Verdict codec bytes result := by
  constructor
  · rintro rfl
    exact verdict_decode codec bytes
  · intro verdict
    cases verdict with
    | blank blank => rw [decode, if_pos blank]
    | null text => rw [decode_of_text codec text, Form.value, decodeJson]
    | garbled visible other =>
      rw [decode, visible, if_neg (by simp), Json.parse?_eq_none_iff.mpr other]
    | @untyped form text other nameless =>
      rw [decode_of_text codec text]
      cases form with
      | object fields => exact decodeJson_of_nameless codec fun kind => nameless fields kind rfl
      | _ => exact decodeJson_of_other codec text.range other (by simp)
    | unknown text named absent => rw [decode_of_object codec text named, absent]
    | malformed text named registered denotes refused =>
      rw [decode_of_object codec text named, registered]
      simp only [(refused_iff denotes).mpr refused]
    | @decoded fields kind bodyType id identity value body text named registered numbered claimed
        denotes bodied =>
      obtain ⟨-, rfl⟩ := Form.denotes_iff.mp denotes
      have read : readEnvelope? bodyType kind (valueFields fields) =
          some (.ofParts kind id identity body) := by
        simp only [readEnvelope?, (carriesId_iff text.range).mpr numbered,
          (claimsIdentity_iff text.range).mpr claimed, Option.bind_eq_bind, Option.bind_some]
        exact Option.bind_eq_some_iff.mpr ⟨body, bodied, rfl⟩
      rw [decode_of_object codec text named, registered]
      simp only [read]
      rfl

/-- A number that is no greater than the greatest double: its twenty digits fit a word. -/
def aLargeNumber : Json.Literal :=
  ⟨false, [1, 7, 9, 7, 6, 9, 3, 1, 3, 4, 8, 6, 2, 3, 1, 5, 7, 0, 8, 1], none, some ⟨false, [2, 8, 9]⟩⟩

/-- A message that holds the number. -/
def aLargeMessage : String := "\x7b\"type\":\"ANY\",\"v\":17976931348623157081e289\x7d"

/-- A message with half of a surrogate pair in a field that the type does not have. -/
def aHalfMessage : String := "\x7b\"type\":\"HELLO\",\"id\":1,\"v\":\"\\uDEAD\"\x7d"

/-- The digits and the power of ten round up one after the other, and their product exceeds every double;
so the text of a number within range is no message. An escaped surrogate that stands alone spells no text
either, even if nothing reads the string. Negative zero is a fraction, and a fraction is no id. -/
theorem large_number_lone_surrogate_and_negative_zero_refused :
    (∃ (text : String) (form : Form), utf8 aLargeMessage = utf8 text ∧
      Json.Spells text.toList (.spaced form) ∧ form.depth ≤ 127 ∧
      form.literals = [aLargeNumber]) ∧
    Json.ofDigits aLargeNumber.whole * 10 ^ 289 ≤ (2 ^ 53 - 1) * 2 ^ 971 ∧
    (⟨.ofList Lobby.types⟩ : Codec).decode (utf8 aLargeMessage) = .error (.malformedBody none) ∧
    Json.Tree.parse? (utf8 aHalfMessage) =
      some (.object [(Json.textPieces "type", .string (Json.textPieces "HELLO")),
        (Json.textPieces "id", .number ⟨false, [1], none, none⟩),
        (Json.textPieces "v", .string [.unit 0xDEAD])]) ∧
    (⟨.ofList Lobby.types⟩ : Codec).decode (utf8 aHalfMessage) = .error (.malformedBody none) ∧
    (⟨.ofList Lobby.types⟩ : Codec).decode (utf8 "\x7b\"type\":\"ANY\",\"id\":-0\x7d") =
      .error (.malformedBody (some "ANY")) := by
  have read : Json.Tree.parse? (utf8 aLargeMessage) =
      some (.object [(Json.textPieces "type", .string (Json.textPieces "ANY")),
        (Json.textPieces "v", .number aLargeNumber)]) := by rfl
  have formed : Json.Tree.form? (.object [(Json.textPieces "type", .string (Json.textPieces "ANY")),
      (Json.textPieces "v", .number aLargeNumber)]) =
      some (.object [("type", .string "ANY"), ("v", .number aLargeNumber)]) := by
    simp [Json.Tree.form?, Json.Tree.fieldForms?]
  obtain ⟨text, bytes, spells⟩ := Json.spells_of_parse? read formed
  have unread : Json.parse? (utf8 aLargeMessage) = none :=
    Option.isNone_iff_eq_none.mp (by decide +kernel)
  refine ⟨⟨text, _, bytes, spells, by decide, rfl⟩, by decide +kernel, ?_, by rfl, by rfl, by rfl⟩
  rw [decode, if_neg (by decide +kernel), unread]

end Gateway.Codec
