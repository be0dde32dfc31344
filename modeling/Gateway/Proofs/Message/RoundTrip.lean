import Gateway.Lobby
import Gateway.Message.Codec
import Gateway.Proofs.Json.Survival

/-! # Encoded envelopes read back

The header is written over the fields of the body, so whatever the body holds, the header that is decoded is
the one that was encoded. The body is another matter: it goes with the header fields through one object.
It comes back if its type looks at fields of its own only, and none of them has the name of a header
field.
-/

namespace Gateway

/-- Whether a type looks at the fields of the given names only. -/
def BodyType.ReadsOnly (bodyType : BodyType) (names : List String) : Prop :=
  ∀ one two, (∀ name ∈ names, Json.findField name one = Json.findField name two) →
    bodyType.read? (.object one) = bodyType.read? (.object two)

theorem Field.mapM_read?_congr {one two : List (String × Json)} {fields : List Field}
    (agree : ∀ field ∈ fields, Json.findField field.name one = Json.findField field.name two) :
    fields.mapM (fun field : Field => field.read? one) =
      fields.mapM (fun field : Field => field.read? two) := by
  induction fields with
  | nil => rfl
  | cons field rest ih =>
    have here := agree field (List.mem_cons_self ..)
    have there := ih fun other member => agree other (List.mem_cons_of_mem _ member)
    rw [List.mapM_cons, List.mapM_cons, there, read?, read?, here]

/-- Records are read from their own fields. -/
theorem RecordType.readsOnly (type : RecordType) :
    type.bodyType.ReadsOnly (type.fields.map Field.name) := by
  intro one two agree
  have fields := Field.mapM_read?_congr fun field member =>
    agree field.name (List.mem_map_of_mem member)
  change (type.fields.mapM fun field : Field => field.read? one).bind _ =
    (type.fields.mapM fun field : Field => field.read? two).bind _
  rw [fields]

namespace Body

/-- Whether a body is written as the given fields. A body that is null has none. -/
def IsWritten (body : Body) (fields : List (String × Json)) : Prop :=
  body.toJson = .ok (.object fields) ∨ body.toJson = .ok .null ∧ fields = []

/-- Whether the value of a body, if it has one, is well-formed. -/
def isWellFormed (body : Body) : Bool :=
  match body.toJson with
  | .ok value => value.isWellFormed
  | .error _ => true

theorem IsWritten.wellFormed {body : Body} {fields : List (String × Json)}
    (written : body.IsWritten fields) (formed : body.isWellFormed = true) :
    (Json.object fields).isWellFormed = true := by
  rw [isWellFormed] at formed
  obtain written | ⟨-, rfl⟩ := written
  · rwa [written] at formed
  · decide

end Body

/-- Whether a type reads a body back from the fields as which it is written. -/
def BodyType.Restores (bodyType : BodyType) (body : Body) : Prop :=
  ∀ fields, body.IsWritten fields → bodyType.read? (.object fields) = some body

namespace Codec

/-- The names of the header fields. -/
def headerNames : List String := ["type", "id", "systemId"]

theorem isWritten_of_toJson {envelope : Envelope} {value : Json}
    (written : toJson envelope = .ok value) :
    ∃ fields, envelope.body.IsWritten fields ∧ value = .object (headed envelope fields) := by
  rw [toJson] at written
  split at written
  · rename_i fields body
    exact ⟨fields, .inl body, (Except.ok.inj written).symm⟩
  · rename_i body
    exact ⟨[], .inr ⟨body, rfl⟩, (Except.ok.inj written).symm⟩
  · cases written
  · cases written

theorem findField_headed (envelope : Envelope) (fields : List (String × Json)) (name : String) :
    Json.findField name (headed envelope fields) =
      if "systemId" = name then envelope.identity.map fun id => .int id.value.toNat
      else if "id" = name then some (.int envelope.id.toInt)
      else if "type" = name then some (.string envelope.kind)
      else Json.findField name fields := by
  rw [headed]
  cases envelope.identity <;> simp

theorem findField_headed_of_body (envelope : Envelope) (fields : List (String × Json)) {name : String}
    (own : name ∉ headerNames) :
    Json.findField name (headed envelope fields) = Json.findField name fields := by
  simp only [headerNames, List.mem_cons, List.not_mem_nil, or_false, not_or] at own
  rw [findField_headed, if_neg (Ne.symm own.2.2), if_neg (Ne.symm own.2.1), if_neg (Ne.symm own.1)]

theorem isWord_id (id : Int64) : Json.isWord id.toInt = true := by
  have low := Int64.minValue_le_toInt id
  have high := Int64.toInt_lt id
  have size : UInt64.size = 18446744073709551616 := rfl
  simp only [Json.isWord, Bool.and_eq_true, decide_eq_true_eq]
  omega

theorem isWord_identity (id : Identity) : Json.isWord id.value.toNat = true := by
  have high := id.value.toNat_lt_size
  have low : Int64.minValue.toInt = -9223372036854775808 := by decide
  simp only [Json.isWord, Bool.and_eq_true, decide_eq_true_eq]
  omega

theorem ascending_headed (envelope : Envelope) {fields : List (String × Json)}
    (ascending : Json.Ascending fields) : Json.Ascending (headed envelope fields) := by
  have numbered := Json.ascending_setField "id" (.int envelope.id.toInt)
    (Json.ascending_setField "type" (.string envelope.kind) ascending)
  rw [headed]
  cases envelope.identity with
  | none => exact Json.ascending_dropField _ numbered
  | some id => exact Json.ascending_setField _ _ numbered

/-- What holds of the header's values and of all fields holds of all fields under the header. -/
theorem forall_mem_headed {p : Json → Prop} (envelope : Envelope) {fields : List (String × Json)}
    (kind : p (.string envelope.kind)) (id : p (.int envelope.id.toInt))
    (identity : ∀ id : Identity, p (.int id.value.toNat)) (rest : ∀ field ∈ fields, p field.2) :
    ∀ field ∈ headed envelope fields, p field.2 := by
  have numbered : ∀ field ∈ Json.setField "id" (.int envelope.id.toInt)
      (Json.setField "type" (.string envelope.kind) fields), p field.2 := by
    intro field member
    obtain rfl | member := Json.mem_setField member
    · exact id
    · obtain rfl | member := Json.mem_setField member
      · exact kind
      · exact rest field member
  rw [headed]
  cases envelope.identity with
  | none => exact fun field member => numbered field (List.mem_filter.mp member).1
  | some id =>
    intro field member
    obtain rfl | member := Json.mem_setField member
    · exact identity id
    · exact numbered field member

/-- Whatever is on a header field is a scalar that is read back as it was written. -/
theorem headed_wellFormed (envelope : Envelope) {fields : List (String × Json)}
    (formed : (Json.object fields).isWellFormed = true) :
    (Json.object (headed envelope fields)).isWellFormed = true := by
  obtain ⟨ascending, values⟩ := Json.isWellFormed_object.mp formed
  exact Json.isWellFormed_object.mpr ⟨ascending_headed envelope ascending,
    forall_mem_headed (p := fun value => value.isWellFormed = true) envelope rfl
      (isWord_id envelope.id) isWord_identity values⟩

/-- Whether fields carry the header of an envelope. -/
structure Heads (envelope : Envelope) (fields : List (String × Json)) : Prop where
  kind : Json.findField "type" fields = some (.string envelope.kind)
  id : Json.findField "id" fields = some (.int envelope.id.toInt)
  identity : Json.findField "systemId" fields =
    envelope.identity.map fun id => .int id.value.toNat

theorem heads_headed (envelope : Envelope) (fields : List (String × Json)) :
    Heads envelope (headed envelope fields) where
  kind := findField_headed ..
  id := findField_headed ..
  identity := findField_headed ..

namespace Heads

variable {envelope : Envelope} {fields : List (String × Json)}

theorem readKind? (heads : Heads envelope fields) (named : envelope.kind ≠ "") :
    Codec.readKind? fields = some envelope.kind := by
  simp only [Codec.readKind?, heads.kind, if_neg named]

theorem readId? (heads : Heads envelope fields) : Codec.readId? fields = some envelope.id := by
  have bounds := And.intro (Int64.minValue_le_toInt envelope.id) (Int64.toInt_le envelope.id)
  simp only [Codec.readId?, heads.id, if_pos bounds, Int64.ofInt_toInt]

theorem readIdentity? (heads : Heads envelope fields) :
    Codec.readIdentity? fields = some envelope.identity := by
  rw [Codec.readIdentity?, heads.identity]
  cases envelope.identity with
  | none => rfl
  | some id =>
    have high := id.value.toNat_lt_size
    have bounds : (0 : Int) ≤ id.value.toNat ∧ (id.value.toNat : Int) < UInt64.size := by omega
    simp only [Option.map_some, if_pos bounds, Int.toNat_natCast, UInt64.ofNat_toNat]

/-- The header decides which type reads the body, and goes into the envelope as it is. -/
theorem decodeJson (heads : Heads envelope fields) (named : envelope.kind ≠ "") (codec : Codec) :
    codec.decodeJson (.object fields) =
      match codec.types.get? envelope.kind with
      | none => .error (.unknownType envelope.kind)
      | some bodyType =>
        match bodyType.read? (.object fields) with
        | none => .error (.malformedBody (some envelope.kind))
        | some body => .ok (.ofParts envelope.kind envelope.id envelope.identity body) := by
  simp only [Codec.decodeJson, heads.readKind? named, Codec.readEnvelope?, heads.readId?,
    heads.readIdentity?, Option.bind_eq_bind, Option.bind_some]
  cases codec.types.get? envelope.kind with
  | none => rfl
  | some bodyType =>
    simp only []
    cases bodyType.read? (.object fields) <;> rfl

end Heads

/-- A message that is a JSON text is decoded from its value. -/
theorem decode_of_parsed (codec : Codec) {bytes : Bytes} {value : Json}
    (parsed : Json.parse? bytes = some value) : codec.decode bytes = codec.decodeJson value := by
  have visible : bytes.all isBlankByte = false := by
    rw [← Bool.not_eq_true]
    intro blank
    rw [Json.parse?_of_blank blank] at parsed
    cases parsed
  simp only [decode, visible, Bool.false_eq_true, ↓reduceIte, parsed]

/-- The text of an object is not blank. -/
theorem decode_object (codec : Codec) (fields : List (String × Json)) :
    codec.decode (utf8 (Json.object fields).render) =
      match Json.parse? (utf8 (Json.object fields).render) with
      | none => .error (.malformedBody none)
      | some value => codec.decodeJson value := by
  have opening : utf8 "\x7b" = [0x7B] := by decide +kernel
  have visible : ¬ (utf8 (Json.object fields).render).all isBlankByte = true := by
    simp [Json.render, Json.objectText, opening, isBlankByte]
  rw [decode]
  exact if_neg visible

/-- Whatever is read of a printed object whose fields carry a header carries it. -/
theorem heads_of_parse? {envelope : Envelope} {fields : List (String × Json)}
    (heads : Heads envelope fields) (ascending : Json.Ascending fields) {value : Json}
    (read : Json.parse? (utf8 (Json.object fields).render) = some value) :
    ∃ values, value = .object values ∧ Heads envelope values := by
  obtain ⟨values, rfl, found⟩ := Json.parse?_render_object ascending read
  have scalar {part : Json} (formed : part.isWellFormed = true) (free : part.isFloatFree = true)
      (flat : part.depth = 0) : (Json.Tree.ofJson part).value? (Json.maxDepth - 1) = some part :=
    Json.value?_ofJson part _ formed free (by omega)
  refine ⟨values, rfl, ?_, ?_, ?_⟩
  · rw [found, heads.kind]
    exact scalar rfl rfl rfl
  · rw [found, heads.id]
    exact scalar (isWord_id envelope.id) rfl rfl
  · rw [found, heads.identity]
    cases envelope.identity with
    | none => rfl
    | some id => exact scalar (isWord_identity id) rfl rfl

theorem encode_eq_ok {envelope : Envelope} {text : String} (encoded : encode envelope = .ok text) :
    ∃ fields, envelope.body.IsWritten fields ∧
      toJson envelope = .ok (.object (headed envelope fields)) ∧
      text = (Json.object (headed envelope fields)).render := by
  rw [encode] at encoded
  cases written : toJson envelope with
  | error reason =>
    rw [written] at encoded
    cases encoded
  | ok value =>
    rw [written] at encoded
    obtain ⟨fields, body, rfl⟩ := isWritten_of_toJson written
    exact ⟨fields, body, rfl, (Except.ok.inj encoded).symm⟩

/-- A printed object that carries a header is either not read at all or decoded with that header. -/
theorem decode_of_heads (codec : Codec) {envelope : Envelope} (named : envelope.kind ≠ "")
    {fields : List (String × Json)} (heads : Heads envelope fields)
    (ascending : Json.Ascending fields) :
    codec.decode (utf8 (Json.object fields).render) = .error (.malformedBody none) ∨
    codec.decode (utf8 (Json.object fields).render) = .error (.unknownType envelope.kind) ∨
    codec.decode (utf8 (Json.object fields).render) = .error (.malformedBody (some envelope.kind)) ∨
    ∃ body, codec.decode (utf8 (Json.object fields).render) =
      .ok (.ofParts envelope.kind envelope.id envelope.identity body) := by
  rw [decode_object]
  cases read : Json.parse? (utf8 (Json.object fields).render) with
  | none => exact .inl rfl
  | some value =>
    obtain ⟨values, rfl, heads⟩ := heads_of_parse? heads ascending read
    simp only [heads.decodeJson named]
    cases codec.types.get? envelope.kind with
    | none => exact .inr (.inl rfl)
    | some bodyType =>
      simp only []
      cases bodyType.read? (.object values) with
      | none => exact .inr (.inr (.inl rfl))
      | some body => exact .inr (.inr (.inr ⟨body, rfl⟩))

/-- Decoding undoes encoding. Whatever the body holds, the text of an envelope has a message and a type,
and what is decoded from it has the kind, the id and the identity of the envelope. If moreover no part of
the object is a fraction and it nests at most as deep as is read, the body comes back too: as it was, if its
type restores it from its own fields and these have no names of header fields, and as the object itself,
if that is how bodies of its kind are read. -/
theorem decoding_undoes_encoding (codec : Codec) (envelope : Envelope) {text : String}
    (named : envelope.kind ≠ "") (formed : envelope.body.isWellFormed = true)
    (encoded : encode envelope = .ok text) :
    codec.decode (utf8 text) ≠ .error .noMessage ∧ codec.decode (utf8 text) ≠ .error .noType ∧
    (∀ decoded, codec.decode (utf8 text) = .ok decoded → decoded.kind = envelope.kind ∧
      decoded.id = envelope.id ∧ decoded.identity = envelope.identity) ∧
    ∀ object, toJson envelope = .ok object → object.isFloatFree = true → object.depth ≤ 127 →
      (∀ bodyType names, codec.types.get? envelope.kind = some bodyType →
        bodyType.ReadsOnly names → (∀ name ∈ headerNames, name ∉ names) →
        bodyType.Restores envelope.body →
        codec.decode (utf8 text) =
          .ok (.ofParts envelope.kind envelope.id envelope.identity envelope.body)) ∧
      (codec.types.get? envelope.kind = some .whole →
        codec.decode (utf8 text) =
          .ok (.ofParts envelope.kind envelope.id envelope.identity (.whole object))) := by
  obtain ⟨fields, written, whole, rfl⟩ := encode_eq_ok encoded
  have heads := heads_headed envelope fields
  have complete := headed_wellFormed envelope (written.wellFormed formed)
  have outcome := decode_of_heads codec named heads (Json.isWellFormed_object.mp complete).1
  refine ⟨?_, ?_, ?_, ?_⟩
  · obtain failed | failed | failed | ⟨body, done⟩ := outcome <;> simp [*]
  · obtain failed | failed | failed | ⟨body, done⟩ := outcome <;> simp [*]
  · intro decoded back
    obtain failed | failed | failed | ⟨body, done⟩ := outcome
    · cases failed.symm.trans back
    · cases failed.symm.trans back
    · cases failed.symm.trans back
    · cases done.symm.trans back
      exact ⟨rfl, rfl, rfl⟩
  · intro object same free shallow
    obtain rfl := Except.ok.inj (whole.symm.trans same)
    have decoded := decode_object codec (headed envelope fields)
    simp only [Json.parse?_render complete free shallow, heads.decodeJson named] at decoded
    constructor
    · intro bodyType names typed reads apart restores
      have own : bodyType.read? (.object (headed envelope fields)) = some envelope.body := by
        rw [← restores fields written]
        exact reads _ _ fun name member =>
          findField_headed_of_body envelope fields fun header => apart name header member
      rw [decoded, typed]
      simp only [own]
    · intro typed
      rw [decoded, typed]
      rfl

/-- A move of the lobby. -/
def aMove : Envelope :=
  .ofParts "MOVE" (-1) (some ⟨7⟩) (.record "MOVE" [("x", .int 3), ("y", .int (-4))])

/-- A message whose body claims another type, another id and a sender. -/
def aClaim : Envelope :=
  .ofParts "ANY" 2 none (.whole (.object [("id", .int 5), ("systemId", .int 6), ("type", .null),
    ("x", .array [.bool true])]))

theorem restores_aMove : Lobby.move.bodyType.Restores aMove.body := by
  rintro fields (written | ⟨written, -⟩)
  · cases written
    rfl
  · cases written

/-- A move comes back as it was, and a claim as the object in which the header took its place. -/
theorem move_and_claim_come_back :
    (⟨.ofList Lobby.types⟩ : Codec).decode
        (utf8 "\x7b\"id\":-1,\"systemId\":7,\"type\":\"MOVE\",\"x\":3,\"y\":-4\x7d") =
      .ok aMove ∧
    (⟨.ofList Lobby.types⟩ : Codec).decode
        (utf8 "\x7b\"id\":2,\"type\":\"ANY\",\"x\":[true]\x7d") =
      .ok (.ofParts "ANY" 2 none (.whole (.object [("id", .int 2), ("type", .string "ANY"),
        ("x", .array [.bool true])]))) := by
  constructor
  · obtain ⟨-, -, -, whole⟩ := decoding_undoes_encoding ⟨.ofList Lobby.types⟩ aMove (by decide)
      (by decide +kernel) rfl
    exact (whole _ rfl (by decide +kernel) (by decide +kernel)).1 Lobby.move.bodyType _ rfl
      (RecordType.readsOnly Lobby.move) (by decide) restores_aMove
  · obtain ⟨-, -, -, whole⟩ := decoding_undoes_encoding ⟨.ofList Lobby.types⟩ aClaim (by decide)
      (by decide +kernel) rfl
    exact (whole _ rfl (by decide +kernel) (by decide +kernel)).2 rfl

end Codec

end Gateway
