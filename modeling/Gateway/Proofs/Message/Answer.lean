import Gateway.Message.Response
import Gateway.Proofs.Json.Reading
import Gateway.Proofs.Message.RoundTrip

/-! # Answers read back

An answer is written as a structure whose fields are left out when they have no value, and read as one whose
fields may be missing; the keys of the connection are not written at all. What is read from the text of an
answer is the answer without its keys, unless a value in it holds a fraction or nests too deep.
-/

namespace Gateway

namespace Json

/-- A field of a structure as it is written: its name and, if it has a value, the text and the tree of
it. -/
abbrev Column := String × Option (String × Tree)

/-- The fields that are written. -/
def present (columns : List Column) : List (String × String × Tree) :=
  columns.filterMap fun column => column.2.map fun written => (column.1, written)

/-- The trees of the fields that are written. -/
def presentTrees (columns : List Column) : List (String × Tree) :=
  (present columns).map fun field => (field.1, field.2.2)

/-- The text of a structure. -/
def structureText (columns : List Column) : String :=
  objectText ((present columns).map fun field => (field.1, field.2.1))

/-- The tree of a structure. -/
def structureTree (columns : List Column) : Tree :=
  .object ((presentTrees columns).map fun field => (textPieces field.1, field.2))

theorem mem_present {columns : List Column} {field : String × String × Tree} :
    field ∈ present columns ↔ (field.1, some field.2) ∈ columns := by
  simp only [present, List.mem_filterMap, Option.map_eq_some_iff]
  constructor
  · rintro ⟨⟨name, written⟩, member, value, rfl, rfl⟩
    exact member
  · exact fun member => ⟨_, member, field.2, rfl, rfl⟩

theorem writes_structure {columns : List Column}
    (writes : ∀ column ∈ columns, ∀ written ∈ column.2, Writes written.1 written.2) :
    Writes (structureText columns) (structureTree columns) := by
  have all := writes_object (present columns) fun field member =>
    writes _ (mem_present.mp member) field.2 rfl
  simpa [structureText, structureTree, presentTrees, Function.comp_def] using all

theorem names_presentTrees (columns : List Column) :
    ((presentTrees columns).map Prod.fst).Sublist (columns.map Prod.fst) := by
  induction columns with
  | nil => exact List.Sublist.slnil
  | cons column rest ih =>
    obtain ⟨name, _ | written⟩ := column
    · exact ih.cons name
    · exact ih.cons_cons name

namespace Tree

theorem knownFields?_of_nodup {known : List String} {fields : List (String × Tree)}
    (within : ∀ name ∈ fields.map Prod.fst, name ∈ known) (nodup : (fields.map Prod.fst).Nodup) :
    knownFields? known (fields.map fun field => (textPieces field.1, field.2)) = some fields := by
  induction fields with
  | nil => rfl
  | cons field rest ih =>
    obtain ⟨name, tree⟩ := field
    obtain ⟨fresh, nodup⟩ := List.nodup_cons.mp nodup
    obtain ⟨here, within⟩ := List.forall_mem_cons.mp within
    have fresh : rest.any (fun field => field.1 == name) = false := by
      rw [List.any_eq_false]
      rintro field member same
      exact fresh (List.mem_map.mpr ⟨field, member, eq_of_beq same⟩)
    simp [knownFields?, ih within nodup, here, fresh]

end Tree

/-- The fields of a structure are all found in its text. -/
theorem record?_structureTree {columns : List Column} (nodup : (columns.map Prod.fst).Nodup) :
    (structureTree columns).record? (columns.map Prod.fst) = some (presentTrees columns) :=
  Tree.knownFields?_of_nodup (names_presentTrees columns).subset
    (nodup.sublist (names_presentTrees columns))

theorem lookup_presentTrees_of_absent {columns : List Column} {name : String}
    (absent : name ∉ columns.map Prod.fst) : (presentTrees columns).lookup name = none := by
  rw [List.lookup_eq_none_iff]
  intro field member
  have other : name ≠ field.1 := by
    rintro rfl
    exact absent ((names_presentTrees columns).subset (List.mem_map_of_mem member))
  simp [other]

/-- A field is found if it was written. -/
theorem lookup_presentTrees {columns : List Column} (nodup : (columns.map Prod.fst).Nodup)
    {name : String} {written : Option (String × Tree)} (member : (name, written) ∈ columns) :
    (presentTrees columns).lookup name = written.map Prod.snd := by
  induction columns with
  | nil => cases member
  | cons column rest ih =>
    obtain ⟨first, value⟩ := column
    obtain ⟨fresh, others⟩ := List.nodup_cons.mp nodup
    obtain same | later := List.mem_cons.mp member
    · cases same
      cases written with
      | none =>
        change (presentTrees rest).lookup name = none
        exact lookup_presentTrees_of_absent fresh
      | some written => exact List.lookup_cons_self
    · have other : name ≠ first := by
        rintro rfl
        exact fresh (List.mem_map.mpr ⟨_, later, rfl⟩)
      cases value with
      | none => exact ih others later
      | some value =>
        change ((first, value.2) :: presentTrees rest).lookup name = _
        rw [List.lookup_cons, beq_false_of_ne other]
        exact ih others later

/-- A field that has to be there is read if it was written as something that is read. -/
theorem required?_presentTrees {columns : List Column} (nodup : (columns.map Prod.fst).Nodup)
    {name text : String} {tree : Tree} (member : (name, some (text, tree)) ∈ columns)
    {read : Tree → Option α} {value : α} (reads : read tree = some value) :
    Tree.required? (presentTrees columns) name read = some value := by
  rw [Tree.required?, lookup_presentTrees nodup member]
  exact reads

/-- A field that may be missing is read if what it stands for when it is missing is what was left out. -/
theorem optional?_presentTrees {columns : List Column} (nodup : (columns.map Prod.fst).Nodup)
    {name : String} {written : Option (String × Tree)} (member : (name, written) ∈ columns)
    {missing value : α} {read : Tree → Option α} (absent : written = none → missing = value)
    (reads : ∀ part ∈ written, read part.2 = some value) :
    Tree.optional? (presentTrees columns) name missing read = some value := by
  rw [Tree.optional?, lookup_presentTrees nodup member]
  cases written with
  | none => exact congrArg some (absent rfl)
  | some part => exact reads part rfl

theorem nullable?_of_ne {tree : Tree} (visible : tree ≠ .null) (read : Tree → Option α) :
    Tree.nullable? read tree = (read tree).map some := by
  cases tree with
  | null => exact absurd rfl visible
  | _ => rfl

/-- What a field that may be null holds was read from some tree. -/
theorem exists_tree_of_nullable? {fields : List (String × Tree)} {name : String}
    {read : Tree → Option α} {value : α}
    (found : Tree.optional? fields name none (Tree.nullable? read) = some (some value)) :
    ∃ tree, read tree = some value := by
  rw [Tree.optional?] at found
  split at found
  · rename_i tree _
    by_cases visible : tree = .null
    · rw [visible, Tree.nullable?] at found
      cases found
    · rw [nullable?_of_ne visible] at found
      exact ⟨tree, by simpa using found⟩
  · cases found

/-- A field that may be null is read as what was written in it, if anything was. -/
theorem nullable?_presentTrees {columns : List Column} (nodup : (columns.map Prod.fst).Nodup)
    {name : String} {value : Option α} {write : α → String × Tree}
    (member : (name, value.map write) ∈ columns) {read : Tree → Option β} {shown : α → β}
    (reads : ∀ part ∈ value, (write part).2 ≠ .null ∧ read (write part).2 = some (shown part)) :
    Tree.optional? (presentTrees columns) name none (Tree.nullable? read) =
      some (value.map shown) := by
  refine optional?_presentTrees nodup member (fun absent => ?_) fun written found => ?_
  · rw [Option.map_eq_none_iff.mp absent]
    rfl
  · obtain ⟨part, rfl, rfl⟩ := Option.map_eq_some_iff.mp found
    obtain ⟨visible, reads⟩ := reads part rfl
    rw [nullable?_of_ne visible, reads]
    rfl

/-- A whole number as it is written. -/
def writtenInt (value : Int) : String × Tree :=
  (toString value, .number ((Numeral.ofNat value.natAbs).literal (decide (value < 0))))

/-- A text as it is written. -/
def writtenText (text : String) : String × Tree := (quote text, .string (textPieces text))

/-- A list of values as it is written. -/
def writtenItems (items : List Json) : String × Tree :=
  (arrayText (renderItems items), .array (Tree.ofItems items))

theorem writes_writtenItems (items : List Json) :
    Writes (writtenItems items).1 (writtenItems items).2 := by
  have writes := writes_render (.array items)
  rwa [render, Tree.ofJson] at writes

theorem int?_writtenInt {low high value : Int} (word : isWord value = true)
    (bounds : low ≤ value ∧ value ≤ high) :
    (writtenInt value).2.int? low high = some value := by
  simp only [writtenInt, Tree.int?, value?_ofNat word, if_pos bounds]

theorem string?_writtenText (text : String) : (writtenText text).2.string? = some text :=
  text?_textPieces text

/-- Whether values come back from their text where they may nest as deep as a limit. -/
structure ItemsSurvive (limit : Nat) (items : List Json) : Prop where
  formed : areWellFormed items = true
  free : areFloatFree items = true
  shallow : itemsDepth items ≤ limit

theorem ItemsSurvive.values? {limit : Nat} {items : List Json} (survive : ItemsSurvive limit items) :
    Tree.values? limit (writtenItems items).2 = some items :=
  itemValues?_ofItems items limit survive.formed survive.free survive.shallow

/-- Values that were read come back, unless one of them holds a fraction. -/
theorem survive_of_values? {limit : Nat} {tree : Tree} {items : List Json}
    (read : Tree.values? limit tree = some items) (free : areFloatFree items = true) :
    ItemsSurvive limit items := by
  cases tree with
  | array trees =>
    rw [Tree.values?] at read
    obtain ⟨forms, -, shallow, -, rfl⟩ := (Tree.itemValues?_eq_some_iff trees limit items).mp read
    exact ⟨areWellFormed_itemValues? trees read, free,
      Nat.le_trans (Form.itemsDepth_itemValues_le forms) shallow⟩
  | _ => cases read

end Json

namespace Descriptor

/-- The fields of a descriptor as they are written. -/
def columns (descriptor : Descriptor) : List Json.Column :=
  [("code", some (Json.writtenInt descriptor.code.toInt)),
    ("template", some (Json.writtenText descriptor.template)),
    ("parameters", if descriptor.parameters = [] then none
      else some (Json.writtenItems descriptor.parameters))]

theorem nodup_columns (descriptor : Descriptor) : (descriptor.columns.map Prod.fst).Nodup := by
  simp [columns]

theorem wire_eq (descriptor : Descriptor) :
    descriptor.wire = Json.structureText descriptor.columns := by
  obtain ⟨code, template, _ | ⟨first, rest⟩⟩ := descriptor <;> rfl

theorem writes_wire (descriptor : Descriptor) :
    Json.Writes descriptor.wire (Json.structureTree descriptor.columns) := by
  rw [wire_eq]
  refine Json.writes_structure (List.forall_mem_cons.mpr ⟨?code, List.forall_mem_cons.mpr
    ⟨?template, List.forall_mem_cons.mpr ⟨?parameters, by simp⟩⟩⟩)
  case code =>
    rintro _ ⟨⟩
    exact Json.writes_int _
  case template =>
    rintro _ ⟨⟩
    exact Json.writes_quote _
  case parameters =>
    rintro written found
    obtain ⟨-, same⟩ := Option.ite_none_left_eq_some.mp found
    cases same
    exact Json.writes_writtenItems _

theorem bounds_code (code : ErrorCode) :
    Int32.minValue.toInt ≤ code.toInt ∧ code.toInt ≤ Int32.maxValue.toInt :=
  ⟨Int32.minValue_le_toInt code, Int32.toInt_le code⟩

theorem isWord_code (code : ErrorCode) : Json.isWord code.toInt = true := by
  have bounds := bounds_code code
  have low : Int32.minValue.toInt = -2147483648 := by decide
  have high : Int32.maxValue.toInt = 2147483647 := by decide
  have least : Int64.minValue.toInt = -9223372036854775808 := by decide
  have size : UInt64.size = 18446744073709551616 := rfl
  simp only [Json.isWord, Bool.and_eq_true, decide_eq_true_eq]
  omega

/-- A descriptor is read back from what is written of it. -/
theorem ofTree?_structureTree {descriptor : Descriptor} {limit : Nat}
    (survive : Json.ItemsSurvive limit descriptor.parameters) :
    ofTree? limit (Json.structureTree descriptor.columns) = some descriptor := by
  have nodup := descriptor.nodup_columns
  have record : (Json.structureTree descriptor.columns).record? ["code", "template", "parameters"] =
      some (Json.presentTrees descriptor.columns) := Json.record?_structureTree nodup
  have code := Json.required?_presentTrees nodup (.head _)
    (Json.int?_writtenInt (isWord_code descriptor.code) (bounds_code descriptor.code))
  have template := Json.required?_presentTrees nodup (.tail _ (.head _))
    (Json.string?_writtenText descriptor.template)
  have parameters : Json.Tree.optional? (Json.presentTrees descriptor.columns) "parameters" []
      (Json.Tree.values? limit) = some descriptor.parameters := by
    refine Json.optional?_presentTrees nodup (.tail _ (.tail _ (.head _))) ?_ ?_
    · intro absent
      have empty : descriptor.parameters = [] := by simpa using absent
      exact empty.symm
    · rintro part found
      obtain ⟨-, same⟩ := Option.ite_none_left_eq_some.mp found
      cases same
      exact survive.values?
  simp only [ofTree?, record, code, template, parameters, Option.bind_eq_bind, Option.bind_some,
    Int32.ofInt_toInt]

theorem survive_of_ofTree? {limit : Nat} {tree : Json.Tree} {descriptor : Descriptor}
    (read : ofTree? limit tree = some descriptor)
    (free : Json.areFloatFree descriptor.parameters = true) :
    Json.ItemsSurvive limit descriptor.parameters := by
  simp only [ofTree?, Option.bind_eq_bind, Option.bind_eq_some_iff, Option.some.injEq] at read
  obtain ⟨fields, -, code, -, template, -, parameters, listed, rfl⟩ := read
  rw [Json.Tree.optional?] at listed
  split at listed
  · exact Json.survive_of_values? listed free
  · cases listed
    exact ⟨rfl, rfl, Nat.zero_le _⟩

end Descriptor

namespace Response

/-- The fields of an answer as they are written. -/
def columns (response : Response) : List Json.Column :=
  [("type", some (Json.writtenText response.kind)),
    ("responseCode", some (Json.writtenText response.status.name)),
    ("error", response.error.map fun error => (error.wire, Json.structureTree error.columns)),
    ("payload", response.payload.map Json.writtenItems),
    ("id", some (Json.writtenInt response.id.toInt)),
    ("systemId", response.identity.map fun id => Json.writtenInt id.value.toNat)]

theorem nodup_columns (response : Response) : (response.columns.map Prod.fst).Nodup := by
  simp [columns]

theorem wire_eq (response : Response) : response.wire = Json.structureText response.columns := by
  obtain ⟨kind, status, error, payload, keys, id, identity⟩ := response
  cases error <;> cases payload <;> cases identity <;> rfl

theorem writes_wire (response : Response) :
    Json.Writes response.wire (Json.structureTree response.columns) := by
  rw [wire_eq]
  refine Json.writes_structure ?_
  simp only [columns, List.forall_mem_cons, Option.mem_def, Option.some.injEq, forall_eq',
    Option.map_eq_some_iff, forall_exists_index, and_imp, List.not_mem_nil, false_imp_iff,
    implies_true, and_true]
  refine ⟨Json.writes_quote _, Json.writes_quote _, ?error, ?payload, Json.writes_int _, ?identity⟩
  case error =>
    rintro _ error - rfl
    exact error.writes_wire
  case payload =>
    rintro _ items - rfl
    exact Json.writes_writtenItems items
  case identity =>
    rintro _ id - rfl
    exact Json.writes_int _

/-- Whether the values in an answer come back from its text. -/
structure Survives (response : Response) : Prop where
  error : ∀ error ∈ response.error, Json.ItemsSurvive 124 error.parameters
  payload : ∀ items ∈ response.payload, Json.ItemsSurvive 125 items

theorem ofName?_name (status : Status) : Status.ofName? status.name = some status := by
  cases status <;> rfl

theorem ofTree?_structureTree {response : Response} (survives : response.Survives) :
    ofTree? (Json.structureTree response.columns) = some { response with keys := none } := by
  have nodup := response.nodup_columns
  have record : (Json.structureTree response.columns).record?
      ["type", "responseCode", "error", "payload", "id", "systemId"] =
      some (Json.presentTrees response.columns) := Json.record?_structureTree nodup
  have kind : Json.Tree.optional? (Json.presentTrees response.columns) "type" standardKind
      Json.Tree.string? = some response.kind := by
    refine Json.optional?_presentTrees nodup (.head _) nofun ?_
    rintro _ ⟨⟩
    exact Json.string?_writtenText response.kind
  have status : Json.Tree.required? (Json.presentTrees response.columns) "responseCode"
      (fun tree => tree.case?.bind Status.ofName?) = some response.status := by
    refine Json.required?_presentTrees nodup (.tail _ (.head _)) ?_
    rw [Json.Tree.case?, Json.text?_textPieces, Option.bind_some, ofName?_name]
  have error : Json.Tree.optional? (Json.presentTrees response.columns) "error" none
      (Json.Tree.nullable? (Descriptor.ofTree? 124)) = some (response.error.map fun error => error) :=
    Json.nullable?_presentTrees nodup (.tail _ (.tail _ (.head _))) fun error found =>
      ⟨by simp [Json.structureTree], Descriptor.ofTree?_structureTree (survives.error error found)⟩
  have payload : Json.Tree.optional? (Json.presentTrees response.columns) "payload" none
      (Json.Tree.nullable? (Json.Tree.values? 125)) = some (response.payload.map fun items => items) :=
    Json.nullable?_presentTrees nodup (.tail _ (.tail _ (.tail _ (.head _)))) fun items found =>
      ⟨by simp [Json.writtenItems], (survives.payload items found).values?⟩
  have number : Json.Tree.optional? (Json.presentTrees response.columns) "id" 0
      (Json.Tree.int? Int64.minValue.toInt Int64.maxValue.toInt) = some response.id.toInt := by
    refine Json.optional?_presentTrees nodup (.tail _ (.tail _ (.tail _ (.tail _ (.head _))))) nofun ?_
    rintro _ ⟨⟩
    exact Json.int?_writtenInt (Codec.isWord_id response.id)
      ⟨Int64.minValue_le_toInt response.id, Int64.toInt_le response.id⟩
  have identity : Json.Tree.optional? (Json.presentTrees response.columns) "systemId" none
      (Json.Tree.nullable? (Json.Tree.int? 0 (UInt64.size - 1))) =
      some (response.identity.map fun id => (id.value.toNat : Int)) := by
    refine Json.nullable?_presentTrees nodup
      (.tail _ (.tail _ (.tail _ (.tail _ (.tail _ (.head _)))))) fun id found => ?_
    have high := id.value.toNat_lt_size
    exact ⟨by simp [Json.writtenInt], Json.int?_writtenInt (Codec.isWord_identity id) (by omega)⟩
  simp only [ofTree?, record, kind, status, Json.maxDepth, error, payload, number, identity,
    Option.bind_eq_bind, Option.bind_some]
  cases response.identity <;> simp [Int64.ofInt_toInt]

/-- Whether no value in an answer holds a fraction. -/
def isFloatFree (response : Response) : Bool :=
  (response.error.all fun error => Json.areFloatFree error.parameters) &&
    response.payload.all Json.areFloatFree

/-- Whether all values in an answer are well-formed. -/
def isWellFormed (response : Response) : Bool :=
  (response.error.all fun error => Json.areWellFormed error.parameters) &&
    response.payload.all Json.areWellFormed

theorem free_parts {response : Response} (free : response.isFloatFree = true) :
    (∀ error ∈ response.error, Json.areFloatFree error.parameters = true) ∧
      ∀ items ∈ response.payload, Json.areFloatFree items = true := by
  simpa only [isFloatFree, Bool.and_eq_true, Option.all_eq_true, Option.mem_def] using free

theorem survives_of_ofTree? {tree : Json.Tree} {response : Response}
    (read : ofTree? tree = some response) (free : response.isFloatFree = true) :
    response.Survives ∧ response.keys = none := by
  simp only [ofTree?, Option.bind_eq_bind, Option.bind_eq_some_iff, Option.some.injEq] at read
  obtain ⟨fields, -, kind, -, status, -, error, described, payload, listed, id, -, identity, -,
    rfl⟩ := read
  obtain ⟨freeError, freePayload⟩ := free_parts free
  refine ⟨⟨?_, ?_⟩, rfl⟩
  · rintro _ ⟨⟩
    obtain ⟨tree, read⟩ := Json.exists_tree_of_nullable? described
    exact Descriptor.survive_of_ofTree? read (freeError _ rfl)
  · rintro _ ⟨⟩
    obtain ⟨tree, read⟩ := Json.exists_tree_of_nullable? listed
    exact Json.survive_of_values? read (freePayload _ rfl)

theorem parse?_wire {response : Response} (survives : response.Survives) :
    parse? (utf8 response.wire) = some { response with keys := none } := by
  rw [parse?, response.writes_wire.parse?]
  exact ofTree?_structureTree survives

/-- What is read from the text of an answer is the answer without its keys, which leave no trace in the
text. An answer that was read is written as a text from which it is read again. -/
theorem answer_is_read_back (response : Response) (free : response.isFloatFree = true) :
    (∀ keys, { response with keys := keys }.wire = response.wire) ∧
    (response.isWellFormed = true → (∀ items ∈ response.payload, Json.itemsDepth items ≤ 125) →
      (∀ error ∈ response.error, Json.itemsDepth error.parameters ≤ 124) →
      parse? (utf8 response.wire) = some { response with keys := none }) ∧
    ∀ bytes, parse? bytes = some response → parse? (utf8 response.wire) = some response := by
  refine ⟨fun keys => rfl, fun formed payload error => ?_, fun bytes read => ?_⟩
  · obtain ⟨freeError, freePayload⟩ := free_parts free
    simp only [isWellFormed, Bool.and_eq_true, Option.all_eq_true] at formed
    exact parse?_wire ⟨fun part found => ⟨formed.1 part found, freeError part found, error part found⟩,
      fun items found => ⟨formed.2 items found, freePayload items found, payload items found⟩⟩
  · obtain ⟨tree, -, read⟩ := Option.bind_eq_some_iff.mp read
    obtain ⟨survives, keyless⟩ := survives_of_ofTree? read free
    rw [parse?_wire survives, ← keyless]

/-- A failure with a payload, keys, an id and an identity. -/
def aFailure : Response where
  kind := standardKind
  status := .failure
  error := some ⟨ErrorCode.malformedMessage, "Malformed \x7b0\x7d message", [.string "MOVE"]⟩
  payload := some [.array [.null, .int 18446744073709551615], .object [("a", .bool true)]]
  keys := some [.name "lobby"]
  id := -1
  identity := some ⟨7⟩

/-- The failure comes back without its keys, and what came back comes back as it is. -/
theorem failure_is_read_back :
    parse? (utf8 aFailure.wire) = some { aFailure with keys := none } ∧
    parse? (utf8 { aFailure with keys := none }.wire) = some { aFailure with keys := none } := by
  obtain ⟨-, back, -⟩ := answer_is_read_back aFailure rfl
  have first := back rfl (by rintro _ ⟨⟩; decide) (by rintro _ ⟨⟩; decide)
  obtain ⟨-, -, again⟩ := answer_is_read_back { aFailure with keys := none } rfl
  exact ⟨first, again _ first⟩

end Response

end Gateway
