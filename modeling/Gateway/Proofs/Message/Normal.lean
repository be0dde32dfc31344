import Gateway.Proofs.Message.Verdict

/-! # The normal form of a message

A message that is decoded and encoded again comes out in its normal form: the fields stand in order, each
once; the header is complete; a record has all its fields and no others. Decoding the normal form leads back
to it, and messages that say the same have the same one. All this holds of messages without fractions
whose types are regular: a body is the received object itself, or a record whose fields have names of
their own and defaults that they could have been given.
-/

namespace Gateway

open Json (Form IsTextOf)

/-- Whether a value stands in a record as it would be read. -/
structure Field.Holds (field : Field) (value : Json) : Prop where
  again : field.type.read? value = some value
  formed : value.isWellFormed = true

/-- Whether the fields of a record have different names, none of which is that of a header field, and
defaults that are of the fields' types. -/
structure RecordType.IsRegular (type : RecordType) : Prop where
  distinct : (type.fields.map Field.name).Nodup
  apart : ∀ field ∈ type.fields, field.name ∉ Codec.headerNames
  defaults : ∀ field ∈ type.fields, ∀ value ∈ field.missing, field.Holds value

/-- Whether bodies are the received objects or records of a regular type. -/
inductive BodyType.IsRegular : BodyType → Prop where
  | whole : IsRegular .whole
  | record {type : RecordType} : type.IsRegular → IsRegular type.bodyType

/-- Whether all types of a table are regular. -/
def Codec.IsRegular (codec : Codec) : Prop :=
  ∀ kind bodyType, codec.types.get? kind = some bodyType → bodyType.IsRegular

/-- The records of the lobby are regular. -/
theorem Lobby.isRegular_of_mem {type : RecordType}
    (member : type ∈ [hello, login, move, echo, profile]) : type.IsRegular := by
  simp only [List.mem_cons, List.not_mem_nil, or_false] at member
  obtain rfl | rfl | rfl | rfl | rfl := member
  · exact ⟨by decide, by decide, by simp [hello]⟩
  · exact ⟨by decide, by decide, by simp [login]⟩
  · exact ⟨by decide, by decide, by simp [move]⟩
  · refine ⟨by decide, by decide, ?_⟩
    simp only [echo, List.forall_mem_singleton, Option.mem_some, forall_eq']
    exact ⟨rfl, rfl⟩
  · refine ⟨by decide, by decide, ?_⟩
    simp only [profile, List.forall_mem_cons, Option.mem_some, forall_eq', List.not_mem_nil,
      false_implies, implies_true, and_true]
    exact ⟨⟨rfl, rfl⟩, ⟨rfl, rfl⟩, ⟨rfl, rfl⟩, ⟨rfl, rfl⟩⟩

theorem PadExchange.isRegular_requestType : requestType.IsRegular :=
  ⟨by decide, by decide, by simp [requestType]⟩

theorem PadExchange.isRegular_ackType : ackType.IsRegular :=
  ⟨by decide, by decide, by simp [ackType]⟩

/-- With the types of the pad exchange, regular types stay so. -/
theorem Application.isRegular_codec {application : Application α}
    (own : (⟨application.types⟩ : Codec).IsRegular) : application.codec.IsRegular := by
  intro kind bodyType registered
  simp only [codec, Table.get?_insert] at registered
  split_ifs at registered
  · cases registered
    exact .record PadExchange.isRegular_ackType
  · cases registered
    exact .record PadExchange.isRegular_requestType
  · exact own kind bodyType registered

/-- So do they with types whose bodies are the received objects. -/
theorem Application.isRegular_understand {application : Application α}
    (own : (⟨application.types⟩ : Codec).IsRegular) (kind : String) :
    (⟨(application.understand kind).types⟩ : Codec).IsRegular := by
  intro other bodyType registered
  rw [understand] at registered
  split_ifs at registered
  · exact own other bodyType registered
  · simp only [Table.get?_insert] at registered
    split_ifs at registered
    · cases registered
      exact .whole
    · exact own other bodyType registered

/-- All types that the lobby reads are regular. -/
theorem Lobby.isRegular_types : (⟨.ofList types⟩ : Codec).IsRegular := by
  intro kind bodyType registered
  have listed : (kind, bodyType) ∈ types := Table.get?_eq_some_iff.mp registered
  simp only [types, List.mem_append, List.mem_map, List.mem_singleton, Prod.mk.injEq] at listed
  obtain ⟨type, member, -, rfl⟩ | ⟨-, rfl⟩ := listed
  · exact .record (isRegular_of_mem member)
  · exact .whole

theorem FieldType.eq_of_read? {type : FieldType} {value read : Json}
    (found : type.read? value = some read) : read = value := by
  rw [FieldType.read?.eq_def] at found
  split at found
  · exact (Option.some.inj found).symm
  · split_ifs at found
    exact (Option.some.inj found).symm
  · exact (Option.some.inj found).symm
  · split_ifs at found
    exact (Option.some.inj found).symm
  · exact (Option.some.inj found).symm
  · exact (Option.some.inj found).symm
  · cases found

/-- A list of strings holds no fraction and no list or object. -/
theorem plain_of_strings {items : List Json} (strings : items.all Json.isString = true) :
    Json.areFloatFree items = true ∧ Json.itemsDepth items = 0 := by
  induction items with
  | nil => exact ⟨rfl, rfl⟩
  | cons item rest ih =>
    simp only [List.all_cons, Bool.and_eq_true] at strings
    obtain ⟨free, flat⟩ := ih strings.2
    cases item with
    | string text => exact ⟨free, by rw [Json.itemsDepth, flat]; rfl⟩
    | _ => cases strings.1

/-- A field of a record holds no fraction and nests at most once. -/
theorem FieldType.plain_of_read? {type : FieldType} {value read : Json}
    (found : type.read? value = some read) : read.isFloatFree = true ∧ read.depth ≤ 1 := by
  rw [FieldType.read?.eq_def] at found
  split at found
  · cases found
    exact ⟨rfl, Nat.zero_le _⟩
  · split_ifs at found
    cases found
    exact ⟨rfl, Nat.zero_le _⟩
  · cases found
    exact ⟨rfl, Nat.zero_le _⟩
  · split_ifs at found with strings
    cases found
    obtain ⟨free, flat⟩ := plain_of_strings strings
    exact ⟨free, Nat.succ_le_succ (Nat.le_of_eq flat)⟩
  · cases found
    exact ⟨rfl, Nat.zero_le _⟩
  · cases found
    exact ⟨rfl, Nat.zero_le _⟩
  · cases found

namespace RecordType

variable {type : RecordType} {received read : List (String × Json)}

/-- What is read as a field has the field's name and is held by the field. -/
theorem IsRegular.holds (regular : type.IsRegular)
    (formed : ∀ name value, Json.findField name received = some value → value.isWellFormed = true)
    {field : Field} (member : field ∈ type.fields) {entry : String × Json}
    (found : field.read? received = some entry) :
    entry.1 = field.name ∧ field.Holds entry.2 := by
  rw [Field.read?] at found
  split at found
  · rename_i value present
    obtain ⟨again, reads, rfl⟩ := Option.map_eq_some_iff.mp found
    obtain rfl := FieldType.eq_of_read? reads
    exact ⟨rfl, reads, formed _ _ present⟩
  · obtain ⟨value, missing, rfl⟩ := Option.map_eq_some_iff.mp found
    exact ⟨rfl, regular.defaults field member value missing⟩

theorem exists_field_of_mapM_read? {fields : List Field}
    (found : fields.mapM (fun field : Field => field.read? received) = some read)
    {entry : String × Json} (member : entry ∈ read) :
    ∃ field ∈ fields, field.read? received = some entry := by
  induction fields generalizing read with
  | nil =>
    cases found
    cases member
  | cons field rest ih =>
    simp only [List.mapM_cons, Option.bind_eq_bind, Option.bind_eq_some_iff, Option.pure_def,
      Option.some.injEq] at found
    obtain ⟨first, here, others, later, rfl⟩ := found
    obtain rfl | inside := List.mem_cons.mp member
    · exact ⟨field, List.mem_cons_self .., here⟩
    · obtain ⟨other, inside, found⟩ := ih later inside
      exact ⟨other, List.mem_cons_of_mem _ inside, found⟩

theorem names_of_mapM_read? {fields : List Field}
    (named : ∀ field ∈ fields, ∀ entry, field.read? received = some entry → entry.1 = field.name)
    (found : fields.mapM (fun field : Field => field.read? received) = some read) :
    read.map Prod.fst = fields.map Field.name := by
  induction fields generalizing read with
  | nil =>
    cases found
    rfl
  | cons field rest ih =>
    simp only [List.mapM_cons, Option.bind_eq_bind, Option.bind_eq_some_iff, Option.pure_def,
      Option.some.injEq] at found
    obtain ⟨first, here, others, later, rfl⟩ := found
    rw [List.map_cons, List.map_cons, named field (List.mem_cons_self ..) first here,
      ih (fun other member => named other (List.mem_cons_of_mem _ member)) later]

theorem mapM_read?_of_same {fields : List Field} {written : List (String × Json)}
    (found : fields.mapM (fun field : Field => field.read? received) = some read)
    (same : ∀ field ∈ fields, ∀ entry ∈ read, field.read? received = some entry →
      field.read? written = some entry) :
    fields.mapM (fun field : Field => field.read? written) = some read := by
  induction fields generalizing read with
  | nil => exact found
  | cons field rest ih =>
    simp only [List.mapM_cons, Option.bind_eq_bind, Option.bind_eq_some_iff, Option.pure_def,
      Option.some.injEq] at found
    obtain ⟨first, here, others, later, rfl⟩ := found
    have again := same field (List.mem_cons_self ..) first (List.mem_cons_self ..) here
    have more := ih later fun other member entry inside =>
      same other (List.mem_cons_of_mem _ member) entry (List.mem_cons_of_mem _ inside)
    simp only [List.mapM_cons, again, more, Option.bind_eq_bind, Option.bind_some, Option.pure_def]

theorem IsRegular.distinct_names (regular : type.IsRegular)
    (formed : ∀ name value, Json.findField name received = some value → value.isWellFormed = true)
    (found : type.fields.mapM (fun field : Field => field.read? received) = some read) :
    (read.map Prod.fst).Nodup := by
  rw [names_of_mapM_read? (fun field member entry here => (regular.holds formed member here).1) found]
  exact regular.distinct

/-- A record is read back from its own fields. -/
theorem IsRegular.read_again (regular : type.IsRegular)
    (formed : ∀ name value, Json.findField name received = some value → value.isWellFormed = true)
    (found : type.fields.mapM (fun field : Field => field.read? received) = some read) :
    type.fields.mapM (fun field : Field => field.read? (Json.sortFields read)) = some read := by
  refine mapM_read?_of_same found fun field member entry inside here => ?_
  obtain ⟨name, holds⟩ := regular.holds formed member here
  have last : Json.findField field.name (Json.sortFields read) = some entry.2 := by
    rw [Json.findField_sortFields, ← name]
    exact Json.last?_of_mem (regular.distinct_names formed found) inside
  rw [Field.read?, last]
  simp only [holds.again, Option.map_some, ← name]

end RecordType

theorem isWellFormed_of_findField {fields : List (String × Json)}
    (survives : (Json.object fields).Survives) (name : String) (value : Json)
    (found : Json.findField name fields = some value) : value.isWellFormed = true :=
  ((Json.survives_object_iff.mp survives).2 _ (Json.mem_of_findField found)).1

/-- The fields of a record that was read come back from their text. -/
theorem RecordType.IsRegular.survives {type : RecordType} (regular : type.IsRegular)
    {received read : List (String × Json)} (survives : (Json.object received).Survives)
    (found : type.fields.mapM (fun field : Field => field.read? received) = some read) :
    (Json.object (Json.sortFields read)).Survives := by
  refine Json.survives_object_iff.mpr ⟨Json.ascending_sortFields read, fun entry member => ?_⟩
  obtain ⟨field, inside, here⟩ := exists_field_of_mapM_read? found (Json.mem_sortFields member)
  obtain ⟨-, again, formed⟩ := regular.holds (isWellFormed_of_findField survives) inside here
  obtain ⟨free, flat⟩ := FieldType.plain_of_read? again
  exact ⟨formed, free, Nat.lt_of_le_of_lt flat (by decide)⟩

namespace Codec

theorem survives_headed (envelope : Envelope) {fields : List (String × Json)}
    (survives : (Json.object fields).Survives) :
    (Json.object (headed envelope fields)).Survives := by
  obtain ⟨ascending, parts⟩ := Json.survives_object_iff.mp survives
  have positive : 0 < Json.maxDepth := by decide
  exact Json.survives_object_iff.mpr ⟨ascending_headed envelope ascending,
    forall_mem_headed (p := fun value => value.isWellFormed = true ∧ value.isFloatFree = true ∧
      value.depth < Json.maxDepth) envelope ⟨rfl, rfl, positive⟩
      ⟨isWord_id envelope.id, rfl, positive⟩ (fun id => ⟨isWord_identity id, rfl, positive⟩) parts⟩

/-- Whether two objects carry the same header and agree in all other fields. -/
structure SameMessage (one two : List (String × Json)) : Prop where
  kind : readKind? one = readKind? two
  id : readId? one = readId? two
  identity : readIdentity? one = readIdentity? two
  rest : ∀ name, name ∉ headerNames → Json.findField name one = Json.findField name two

namespace SameMessage

theorem refl (fields : List (String × Json)) : SameMessage fields fields := ⟨rfl, rfl, rfl, fun _ _ => rfl⟩

theorem symm {one two : List (String × Json)} (same : SameMessage one two) : SameMessage two one :=
  ⟨same.kind.symm, same.id.symm, same.identity.symm, fun name own => (same.rest name own).symm⟩

theorem trans {one two three : List (String × Json)} (first : SameMessage one two)
    (second : SameMessage two three) : SameMessage one three :=
  ⟨first.kind.trans second.kind, first.id.trans second.id, first.identity.trans second.identity,
    fun name own => (first.rest name own).trans (second.rest name own)⟩

/-- An id or an identity may as well be missing as null. -/
theorem of_null {one two : List (String × Json)} {name : String}
    (header : name = "id" ∨ name = "systemId")
    (own : Json.findField name one = Json.findField name two ∨
      Json.findField name one = some .null ∧ Json.findField name two = none)
    (rest : ∀ other, other ≠ name → Json.findField other one = Json.findField other two) :
    SameMessage one two := by
  obtain rfl | rfl := header
  · refine ⟨?_, ?_, ?_, fun other out => rest other ?_⟩
    · simp only [readKind?, rest "type" (by decide)]
    · obtain same | ⟨null, missing⟩ := own
      · simp only [readId?, same]
      · simp only [readId?, null, missing]
    · simp only [readIdentity?, rest "systemId" (by decide)]
    · rintro rfl
      exact out (by decide)
  · refine ⟨?_, ?_, ?_, fun other out => rest other ?_⟩
    · simp only [readKind?, rest "type" (by decide)]
    · simp only [readId?, rest "id" (by decide)]
    · obtain same | ⟨null, missing⟩ := own
      · simp only [readIdentity?, same]
      · simp only [readIdentity?, null, missing]
    · rintro rfl
      exact out (by decide)

end SameMessage

/-- Under one header, fields that agree elsewhere are the same. -/
theorem headed_congr (envelope : Envelope) {one two : List (String × Json)}
    (first : Json.Ascending one) (second : Json.Ascending two)
    (rest : ∀ name, name ∉ headerNames → Json.findField name one = Json.findField name two) :
    headed envelope one = headed envelope two := by
  refine Json.eq_of_findField (ascending_headed envelope first) (ascending_headed envelope second)
    fun name => ?_
  by_cases header : name ∈ headerNames
  · simp only [headerNames, List.mem_cons, List.not_mem_nil, or_false] at header
    rw [findField_headed, findField_headed]
    obtain rfl | rfl | rfl := header <;> rfl
  · rw [findField_headed_of_body envelope one header, findField_headed_of_body envelope two header]
    exact rest name header

/-- The envelope of an object is made of its header and of its body as one of its type. -/
theorem decodeJson_eq_ok_iff {codec : Codec} {fields : List (String × Json)} {envelope : Envelope} :
    codec.decodeJson (.object fields) = .ok envelope ↔
      ∃ kind bodyType id identity body, readKind? fields = some kind ∧
        codec.types.get? kind = some bodyType ∧ readId? fields = some id ∧
        readIdentity? fields = some identity ∧ bodyType.read? (.object fields) = some body ∧
        envelope = .ofParts kind id identity body := by
  constructor
  · intro decoded
    rw [decodeJson] at decoded
    split at decoded
    · cases decoded
    · rename_i kind kinded
      split at decoded
      · cases decoded
      · rename_i bodyType registered
        split at decoded
        · cases decoded
        · rename_i found read
          simp only [readEnvelope?, Option.bind_eq_bind, Option.bind_eq_some_iff,
            Option.some.injEq] at read
          obtain ⟨id, numbered, identity, claimed, body, bodied, rfl⟩ := read
          exact ⟨kind, bodyType, id, identity, body, kinded, registered, numbered, claimed, bodied,
            (Except.ok.inj decoded).symm⟩
  · rintro ⟨kind, bodyType, id, identity, body, kinded, registered, numbered, claimed, bodied, rfl⟩
    simp only [decodeJson, kinded, registered, readEnvelope?, numbered, claimed, bodied,
      Option.bind_eq_bind, Option.bind_some]

variable {bodyType : BodyType} {fields : List (String × Json)} {body : Body}

/-- Objects that agree outside the header have bodies that are written alike. -/
theorem exists_twin (regular : bodyType.IsRegular) {twin : List (String × Json)}
    (first : Json.Ascending fields) (second : Json.Ascending twin)
    (rest : ∀ name, name ∉ headerNames → Json.findField name fields = Json.findField name twin)
    (read : bodyType.read? (.object fields) = some body) :
    ∃ other, bodyType.read? (.object twin) = some other ∧ ∀ kind id identity,
      toJson (.ofParts kind id identity body) = toJson (.ofParts kind id identity other) := by
  cases regular with
  | whole =>
    cases read
    refine ⟨.whole (.object twin), rfl, fun kind id identity => ?_⟩
    have same := headed_congr (.ofParts kind id identity (.whole (.object fields))) first second rest
    exact congrArg (fun fields => Except.ok (Json.object fields)) same
  | @record type regular =>
    refine ⟨body, ?_, fun _ _ _ => rfl⟩
    rw [← read]
    refine (type.readsOnly _ _ fun name member => rest name ?_).symm
    obtain ⟨field, inside, rfl⟩ := List.mem_map.mp member
    exact regular.apart field inside

/-- A message is written as fields that carry its header and come back from their text, and the body that is
read of them is written as they are. -/
theorem exists_normal (regular : bodyType.IsRegular) (survives : (Json.object fields).Survives)
    (read : bodyType.read? (.object fields) = some body) (kind : String) (id : Int64)
    (identity : Option Identity) :
    ∃ normal, toJson (.ofParts kind id identity body) = .ok (.object normal) ∧
      (Json.object normal).Survives ∧ Heads (.ofParts kind id identity body) normal ∧
      ∃ again, bodyType.read? (.object normal) = some again ∧
        toJson (.ofParts kind id identity again) = .ok (.object normal) := by
  cases regular with
  | whole =>
    cases read
    let envelope := Envelope.ofParts kind id identity (.whole (.object fields))
    obtain ⟨ascending, -⟩ := Json.survives_object_iff.mp survives
    have settled : headed envelope (headed envelope fields) = headed envelope fields :=
      headed_congr envelope (ascending_headed envelope ascending) ascending fun name own =>
        findField_headed_of_body envelope fields own
    exact ⟨headed envelope fields, rfl, survives_headed envelope survives, heads_headed ..,
      .whole (.object (headed envelope fields)), rfl,
      congrArg (fun fields => Except.ok (Json.object fields)) settled⟩
  | @record type regular =>
    obtain ⟨values, found, same⟩ := Option.bind_eq_some_iff.mp read
    cases same
    let envelope := Envelope.ofParts kind id identity (.record type.name values)
    have own : type.bodyType.read? (.object (headed envelope (Json.sortFields values))) =
        type.bodyType.read? (.object (Json.sortFields values)) :=
      type.readsOnly _ _ fun name member => by
        obtain ⟨field, inside, rfl⟩ := List.mem_map.mp member
        exact findField_headed_of_body envelope _ (regular.apart field inside)
    have again : type.bodyType.read? (.object (Json.sortFields values)) =
        some (.record type.name values) :=
      Option.bind_eq_some_iff.mpr
        ⟨values, regular.read_again (isWellFormed_of_findField survives) found, rfl⟩
    exact ⟨headed envelope (Json.sortFields values), rfl,
      survives_headed envelope (regular.survives survives found), heads_headed ..,
      .record type.name values, own.trans again, rfl⟩

/-- Forms of one message: they are alike, or a field of the header is null in one and missing in the
other. -/
inductive Restates : Form → Form → Prop where
  | alike {one two : Form} : one.Alike two → Restates one two
  | header {name : String} (before after : List (String × Form)) : name = "id" ∨ name = "systemId" →
      name ∉ before.map Prod.fst →
      Restates (.object (before ++ (name, .null) :: after)) (.object (before ++ after))
  | symm {one two : Form} : Restates one two → Restates two one
  | trans {one two three : Form} : Restates one two → Restates two three → Restates one three

theorem sameMessage_of_null {name : String} {before after : List (String × Form)}
    (header : name = "id" ∨ name = "systemId") (first : name ∉ before.map Prod.fst) :
    SameMessage (valueFields (before ++ (name, .null) :: after)) (valueFields (before ++ after)) := by
  refine .of_null header ?_ fun other differs => ?_ <;>
    simp only [Form.findField_sortFields_fieldValues, Json.last?_append, Json.last?_cons]
  · rw [Json.last?_eq_none_iff.mpr first, Option.or_none, Option.or_none, if_pos trivial]
    cases Json.last? name after with
    | none => exact .inr ⟨rfl, rfl⟩
    | some form => exact .inl rfl
  · rw [if_neg differs.symm, Option.or_none]

/-- Forms of one message have one value, or are objects that carry one header and agree elsewhere. -/
theorem Restates.value {one two : Form} (restates : Restates one two) :
    one.value = two.value ∨ ∃ fields twin, one.value = .object fields ∧ two.value = .object twin ∧
      SameMessage fields twin := by
  induction restates with
  | alike alike => exact .inl alike.value_eq
  | header before after header first =>
    exact .inr ⟨_, _, rfl, rfl, sameMessage_of_null header first⟩
  | symm _ ih =>
    obtain same | ⟨fields, twin, left, right, same⟩ := ih
    · exact .inl same.symm
    · exact .inr ⟨twin, fields, right, left, same.symm⟩
  | trans _ _ first second =>
    obtain value | ⟨fields, twin, left, right, same⟩ := first
    · rwa [value]
    · obtain value | ⟨middle, third, center, last, next⟩ := second
      · exact .inr ⟨fields, twin, left, value ▸ right, same⟩
      · cases right.symm.trans center
        exact .inr ⟨fields, third, left, last, same.trans next⟩

theorem Restates.exists_fields {one two : Form} (restates : Restates one two)
    {fields : List (String × Json)} (whole : one.value = .object fields) :
    ∃ twin, two.value = .object twin ∧ SameMessage fields twin := by
  obtain value | ⟨_, twin, left, right, same⟩ := restates.value
  · exact ⟨fields, value ▸ whole, .refl fields⟩
  · cases whole.symm.trans left
    exact ⟨twin, right, same⟩

theorem exists_fields_of_decodeJson {codec : Codec} {value : Json} {envelope : Envelope}
    (decoded : codec.decodeJson value = .ok envelope) : ∃ fields, value = .object fields := by
  cases value with
  | object fields => exact ⟨fields, rfl⟩
  | _ => cases decoded

theorem isWellFormed_value {bytes : Bytes} {form : Form} (text : IsTextOf bytes form) :
    form.value.isWellFormed = true :=
  Json.isWellFormed_parse? (Json.parse?_eq_some_iff.mpr ⟨form, text, rfl⟩)

/-- The value of a text without fractions comes back from its own text. -/
theorem survives_value {bytes : Bytes} {form : Form} (text : IsTextOf bytes form)
    (integral : form.IsIntegral) : form.value.Survives where
  formed := isWellFormed_value text
  free := Form.isFloatFree_value form integral
  shallow := Nat.le_trans (Form.depth_value_le form) text.shallow

theorem encode_of_toJson {envelope : Envelope} {value : Json} (written : toJson envelope = .ok value) :
    encode envelope = .ok value.render := by
  rw [encode, written]
  rfl

/-- A message without fractions that is decoded is encoded in its normal form: what is decoded of that has
the same header and is encoded as it is, and whatever restates the message has the same one. -/
theorem encoding_is_normal_form (codec : Codec) (regular : codec.IsRegular) {bytes : Bytes} {form : Form}
    (text : IsTextOf bytes form) (integral : form.IsIntegral) {envelope : Envelope}
    (decoded : codec.decode bytes = .ok envelope) :
    ∃ normal, encode envelope = .ok normal ∧
      (∃ again, codec.decode (utf8 normal) = .ok again ∧ again.kind = envelope.kind ∧
        again.id = envelope.id ∧ again.identity = envelope.identity ∧ encode again = .ok normal) ∧
      ∀ other twin, IsTextOf other twin → Restates form twin →
        ∃ restated, codec.decode other = .ok restated ∧ encode restated = .ok normal := by
  rw [decode_of_text codec text] at decoded
  obtain ⟨fields, whole⟩ := exists_fields_of_decodeJson decoded
  rw [whole] at decoded
  obtain ⟨kind, bodyType, id, identity, body, kinded, registered, numbered, claimed, read, rfl⟩ :=
    decodeJson_eq_ok_iff.mp decoded
  have bodies := regular kind bodyType registered
  have survives : (Json.object fields).Survives := whole ▸ survives_value text integral
  obtain ⟨normal, written, complete, heads, body', read', written'⟩ :=
    exists_normal bodies survives read kind id identity
  refine ⟨(Json.object normal).render, encode_of_toJson written,
    ⟨.ofParts kind id identity body', ?_, rfl, rfl, rfl, encode_of_toJson written'⟩, ?_⟩
  · rw [decode_of_parsed codec (Json.parse?_render complete.formed complete.free complete.shallow),
      heads.decodeJson (readKind?_eq_some_iff.mp kinded).2]
    simp only [Envelope.ofParts] at registered ⊢
    rw [registered]
    simp only [read']
  · intro other twin said restates
    obtain ⟨twins, value, same⟩ := restates.exists_fields whole
    have ordered : Json.Ascending twins :=
      (Json.isWellFormed_object.mp (value ▸ isWellFormed_value said)).1
    obtain ⟨restated, reread, rewritten⟩ := exists_twin bodies
      (Json.survives_object_iff.mp survives).1 ordered same.rest read
    refine ⟨.ofParts kind id identity restated, ?_,
      encode_of_toJson ((rewritten kind id identity).symm.trans written)⟩
    rw [decode_of_text codec said, value]
    exact decodeJson_eq_ok_iff.mpr ⟨kind, bodyType, id, identity, restated,
      same.kind ▸ kinded, registered, same.id ▸ numbered, same.identity ▸ claimed, reread, rfl⟩

/-- A message with a null id and a field that is given twice. -/
def aLooseText : String := "\x7b \"type\": \"ANY\", \"id\": null, \"a\": 1, \"a\": 2 \x7d"

/-- The message without the id and the first of the two, in another order. -/
def aTightText : String := "\x7b\"a\":2,\"type\":\"ANY\"\x7d"

/-- What the first of the two texts says. -/
def aLooseForm : Form :=
  .object [("type", .string "ANY"), ("id", .null), ("a", .number ⟨false, [1], none, none⟩),
    ("a", .number ⟨false, [2], none, none⟩)]

/-- What the second says. -/
def aTightForm : Form :=
  .object [("a", .number ⟨false, [2], none, none⟩), ("type", .string "ANY")]

theorem restates_aLooseForm : Restates aLooseForm aTightForm :=
  .trans (.header [("type", .string "ANY")] _ (.inl rfl) (by decide))
    (.trans (.alike (.repeated [("type", .string "ANY")] _ (by decide)))
      (.alike (.swap [] [] (by decide))))

theorem isIntegral_aLooseForm : aLooseForm.IsIntegral := by
  intro literal member
  simp only [aLooseForm, Form.literals, Form.fieldLiterals, List.append_nil, List.nil_append,
    List.cons_append, List.mem_cons, List.not_mem_nil, or_false] at member
  obtain rfl | rfl := member
  · exact ⟨1, rfl, by decide, by decide⟩
  · exact ⟨2, rfl, by decide, by decide⟩

theorem isTextOf_aLooseText : IsTextOf (utf8 aLooseText) aLooseForm where
  spells := by
    have read : Json.Tree.parse? (utf8 aLooseText) =
      some (.object [(Json.textPieces "type", .string (Json.textPieces "ANY")),
        (Json.textPieces "id", .null), (Json.textPieces "a", .number ⟨false, [1], none, none⟩),
        (Json.textPieces "a", .number ⟨false, [2], none, none⟩)]) := by rfl
    exact Json.spells_of_parse? read (by simp [Json.Tree.form?, Json.Tree.fieldForms?, aLooseForm])
  shallow := by decide
  range := isIntegral_aLooseForm.inRange

theorem isTextOf_aTightText : IsTextOf (utf8 aTightText) aTightForm where
  spells := by
    have read : Json.Tree.parse? (utf8 aTightText) =
      some (.object [(Json.textPieces "a", .number ⟨false, [2], none, none⟩),
        (Json.textPieces "type", .string (Json.textPieces "ANY"))]) := by rfl
    exact Json.spells_of_parse? read (by simp [Json.Tree.form?, Json.Tree.fieldForms?, aTightForm])
  shallow := by decide
  range := fun literal member => by
    obtain rfl := List.mem_singleton.mp member
    exact ⟨.int 2, .integer ⟨rfl, by decide, by decide⟩⟩

/-- Both texts have one normal form. -/
theorem loose_and_tight_text_share_normal_form :
    ∃ normal, ((Lobby.application (α := Unit)).codec.decode (utf8 aLooseText)).bind encode = .ok normal ∧
      ((Lobby.application (α := Unit)).codec.decode (utf8 aTightText)).bind encode = .ok normal := by
  obtain ⟨envelope, decoded⟩ :
      ∃ envelope, (Lobby.application (α := Unit)).codec.decode (utf8 aLooseText) = .ok envelope :=
    ⟨_, rfl⟩
  obtain ⟨normal, encoded, -, others⟩ := encoding_is_normal_form _
    (Application.isRegular_codec Lobby.isRegular_types) isTextOf_aLooseText isIntegral_aLooseForm decoded
  obtain ⟨restated, redecoded, reencoded⟩ := others _ _ isTextOf_aTightText restates_aLooseForm
  refine ⟨normal, ?_, ?_⟩
  · rw [decoded]
    exact encoded
  · rw [redecoded]
    exact reencoded

end Codec

end Gateway
