import Gateway.Proofs.Json.Written

/-! # Values that survive print and parse

A well-formed value holds whole numbers in the range of a signed or unsigned word and the fields of each
object in strict order of their names. Printed and read again, it is the same value, unless it holds a
fraction or nests too deep. Of a value with fractions the names of its fields are the same, and so is every
part that holds none.
-/

namespace Gateway.Json

/-- Whether fields stand in strict order of their names. -/
def Ascending (fields : List (String × Json)) : Prop := fields.Pairwise fun one two => one.1 < two.1

instance (fields : List (String × Json)) : Decidable (Ascending fields) :=
  inferInstanceAs (Decidable (fields.Pairwise fun one two => one.1 < two.1))

theorem mem_setField {name : String} {value : Json} {fields : List (String × Json)}
    {field : String × Json} (member : field ∈ setField name value fields) :
    field = (name, value) ∨ field ∈ fields := by
  induction fields with
  | nil => exact .inl (List.mem_singleton.mp member)
  | cons head rest ih =>
    obtain ⟨other, old⟩ := head
    rw [setField] at member
    split_ifs at member with same before
    · exact (List.mem_cons.mp member).imp_right (List.mem_cons_of_mem _)
    · exact List.mem_cons.mp member
    · obtain rfl | later := List.mem_cons.mp member
      · exact .inr (List.mem_cons_self ..)
      · exact (ih later).imp_right (List.mem_cons_of_mem _)

theorem ascending_setField (name : String) (value : Json) {fields : List (String × Json)}
    (ascending : Ascending fields) : Ascending (setField name value fields) := by
  induction fields with
  | nil => exact List.pairwise_singleton _ _
  | cons head rest ih =>
    obtain ⟨other, old⟩ := head
    obtain ⟨first, others⟩ := List.pairwise_cons.mp ascending
    rw [setField]
    split_ifs with same before
    · subst same
      exact List.pairwise_cons.mpr ⟨first, others⟩
    · refine List.pairwise_cons.mpr ⟨fun field member => ?_, ascending⟩
      obtain rfl | later := List.mem_cons.mp member
      · exact before
      · exact String.lt_trans before (first field later)
    · refine List.pairwise_cons.mpr ⟨fun field member => ?_, ih others⟩
      obtain rfl | later := mem_setField member
      · exact Std.lt_of_le_of_ne (String.not_lt.mp before) (Ne.symm same)
      · exact first field later

theorem ascending_dropField (name : String) {fields : List (String × Json)}
    (ascending : Ascending fields) : Ascending (dropField name fields) :=
  ascending.filter _

theorem setField_of_last {name : String} (value : Json) {fields : List (String × Json)}
    (last : ∀ field ∈ fields, field.1 < name) :
    setField name value fields = fields ++ [(name, value)] := by
  induction fields with
  | nil => rfl
  | cons head rest ih =>
    obtain ⟨other, old⟩ := head
    have before : other < name := last _ (List.mem_cons_self ..)
    have differs : name ≠ other := by
      rintro rfl
      exact String.lt_irrefl _ before
    rw [setField, if_neg differs, if_neg (String.lt_asymm before),
      ih fun field member => last field (List.mem_cons_of_mem _ member)]
    rfl

/-- Fields in order are not moved. -/
theorem sortFields_of_ascending {fields : List (String × Json)} (ascending : Ascending fields) :
    sortFields fields = fields := by
  suffices ∀ rest done : List (String × Json), Ascending (done ++ rest) →
      rest.foldl (fun fields field => setField field.1 field.2 fields) done = done ++ rest from
    this fields [] ascending
  intro rest
  induction rest with
  | nil => simp
  | cons field rest ih =>
    intro done sorted
    have last : ∀ other ∈ done, other.1 < field.1 := fun other member =>
      (List.pairwise_append.mp sorted).2.2 other member field (List.mem_cons_self ..)
    rw [List.foldl_cons, setField_of_last field.2 last, ih _ (by simpa using sorted)]
    simp

theorem ascending_sortFields (assignments : List (String × Json)) :
    Ascending (sortFields assignments) := by
  suffices ∀ rest done : List (String × Json), Ascending done →
      Ascending (rest.foldl (fun fields field => setField field.1 field.2 fields) done) from
    this assignments [] List.Pairwise.nil
  intro rest
  induction rest with
  | nil => exact fun _ ascending => ascending
  | cons field rest ih => exact fun done ascending => ih _ (ascending_setField _ _ ascending)

theorem mem_sortFields {field : String × Json} {assignments : List (String × Json)}
    (member : field ∈ sortFields assignments) : field ∈ assignments := by
  suffices ∀ rest done : List (String × Json),
      field ∈ rest.foldl (fun fields field => setField field.1 field.2 fields) done →
      field ∈ done ∨ field ∈ rest from (this assignments [] member).resolve_left List.not_mem_nil
  intro rest
  induction rest with
  | nil => exact fun _ member => .inl member
  | cons next rest ih =>
    intro done member
    obtain member | member := ih _ member
    · obtain rfl | member := mem_setField member
      · exact .inr (List.mem_cons_self ..)
      · exact .inl member
    · exact .inr (List.mem_cons_of_mem _ member)

mutual

/-- Whether whole numbers are words and the fields of objects stand in order. -/
def isWellFormed : Json → Bool
  | .int value => isWord value
  | .array items => areWellFormed items
  | .object fields => decide (Ascending fields) && areFieldsWellFormed fields
  | _ => true

/-- Whether all items are well-formed. -/
def areWellFormed : List Json → Bool
  | [] => true
  | item :: rest => isWellFormed item && areWellFormed rest

/-- Whether the values of all fields are well-formed. -/
def areFieldsWellFormed : List (String × Json) → Bool
  | [] => true
  | (_, value) :: rest => isWellFormed value && areFieldsWellFormed rest

end

mutual

/-- Whether no part of a value is a fraction. -/
def isFloatFree : Json → Bool
  | .float _ => false
  | .array items => areFloatFree items
  | .object fields => areFieldsFloatFree fields
  | _ => true

/-- Whether all items are free of fractions. -/
def areFloatFree : List Json → Bool
  | [] => true
  | item :: rest => isFloatFree item && areFloatFree rest

/-- Whether the values of all fields are free of fractions. -/
def areFieldsFloatFree : List (String × Json) → Bool
  | [] => true
  | (_, value) :: rest => isFloatFree value && areFieldsFloatFree rest

end

mutual

/-- How deep arrays and objects nest. -/
def depth : Json → Nat
  | .array items => itemsDepth items + 1
  | .object fields => fieldsDepth fields + 1
  | _ => 0

/-- How deep the items of an array nest. -/
def itemsDepth : List Json → Nat
  | [] => 0
  | item :: rest => max (depth item) (itemsDepth rest)

/-- How deep the values of an object nest. -/
def fieldsDepth : List (String × Json) → Nat
  | [] => 0
  | (_, value) :: rest => max (depth value) (fieldsDepth rest)

end

theorem areFieldsWellFormed_eq_true_iff {fields : List (String × Json)} :
    areFieldsWellFormed fields = true ↔ ∀ field ∈ fields, field.2.isWellFormed = true := by
  induction fields with
  | nil => simp [areFieldsWellFormed]
  | cons field rest ih => simp [areFieldsWellFormed, ih]

theorem areFieldsFloatFree_eq_true_iff {fields : List (String × Json)} :
    areFieldsFloatFree fields = true ↔ ∀ field ∈ fields, field.2.isFloatFree = true := by
  induction fields with
  | nil => simp [areFieldsFloatFree]
  | cons field rest ih => simp [areFieldsFloatFree, ih]

theorem fieldsDepth_le_iff {fields : List (String × Json)} {limit : Nat} :
    fieldsDepth fields ≤ limit ↔ ∀ field ∈ fields, field.2.depth ≤ limit := by
  induction fields with
  | nil => simp [fieldsDepth]
  | cons field rest ih =>
    obtain ⟨name, value⟩ := field
    rw [fieldsDepth, Nat.max_le, ih, List.forall_mem_cons]

theorem isWellFormed_object {fields : List (String × Json)} :
    (object fields).isWellFormed = true ↔
      Ascending fields ∧ ∀ field ∈ fields, field.2.isWellFormed = true := by
  rw [isWellFormed, Bool.and_eq_true, decide_eq_true_eq, areFieldsWellFormed_eq_true_iff]

theorem isWellFormed_literal {literal : Literal} {value : Json}
    (read : literal.value? = some value) : value.isWellFormed = true := by
  obtain ⟨n, rfl⟩ | ⟨x, rfl⟩ := value?_cases read
  · exact (value?_eq_int_iff.mp read).2.1
  · rfl

mutual

/-- Whatever is read is well-formed. -/
theorem isWellFormed_value? : ∀ (tree : Tree) {limit : Nat} {value : Json},
    tree.value? limit = some value → value.isWellFormed = true
  | .null, _, _, read => by
    rw [Tree.value?] at read
    obtain rfl := Option.some.inj read
    rfl
  | .bool _, _, _, read => by
    rw [Tree.value?] at read
    obtain rfl := Option.some.inj read
    rfl
  | .number literal, _, _, read => by
    rw [Tree.value?] at read
    exact isWellFormed_literal read
  | .string pieces, _, _, read => by
    rw [Tree.value?] at read
    obtain ⟨text, -, rfl⟩ := Option.map_eq_some_iff.mp read
    rfl
  | .array items, limit, _, read => by
    cases limit with
    | zero => cases read
    | succ limit =>
      rw [Tree.value?] at read
      obtain ⟨values, found, rfl⟩ := Option.map_eq_some_iff.mp read
      exact areWellFormed_itemValues? items found
  | .object fields, limit, _, read => by
    cases limit with
    | zero => cases read
    | succ limit =>
      rw [Tree.value?] at read
      obtain ⟨values, found, rfl⟩ := Option.map_eq_some_iff.mp read
      have formed := areFieldsWellFormed_eq_true_iff.mp (areFieldsWellFormed_fieldValues? fields found)
      exact isWellFormed_object.mpr ⟨ascending_sortFields values, fun field member =>
        formed field (mem_sortFields member)⟩

theorem areWellFormed_itemValues? : ∀ (items : List Tree) {limit : Nat} {values : List Json},
    Tree.itemValues? limit items = some values → areWellFormed values = true
  | [], _, _, read => by
    rw [Tree.itemValues?] at read
    obtain rfl := Option.some.inj read
    rfl
  | item :: rest, _, _, read => by
    simp only [Tree.itemValues?, Option.bind_eq_bind, Option.bind_eq_some_iff,
      Option.some.injEq] at read
    obtain ⟨value, first, values, others, rfl⟩ := read
    rw [areWellFormed, isWellFormed_value? item first, areWellFormed_itemValues? rest others]
    rfl

theorem areFieldsWellFormed_fieldValues? : ∀ (fields : List (List Piece × Tree)) {limit : Nat}
    {values : List (String × Json)}, Tree.fieldValues? limit fields = some values →
    areFieldsWellFormed values = true
  | [], _, _, read => by
    rw [Tree.fieldValues?] at read
    obtain rfl := Option.some.inj read
    rfl
  | (_, tree) :: rest, _, _, read => by
    simp only [Tree.fieldValues?, Option.bind_eq_bind, Option.bind_eq_some_iff,
      Option.some.injEq] at read
    obtain ⟨name, -, value, first, values, others, rfl⟩ := read
    rw [areFieldsWellFormed, isWellFormed_value? tree first,
      areFieldsWellFormed_fieldValues? rest others]
    rfl

end

/-- Whatever text is read, its value is well formed: nothing that was received is excluded by asking for
it. -/
theorem isWellFormed_parse? {bytes : Bytes} {value : Json} (read : parse? bytes = some value) :
    value.isWellFormed = true := by
  rw [parse?, Option.bind_eq_bind, Option.bind_eq_some_iff] at read
  obtain ⟨tree, -, read⟩ := read
  exact isWellFormed_value? tree read

/-- A form feed makes a message blank but is no white space between tokens. -/
theorem token?_of_formFeed (rest : Bytes) : token? (0x0C :: rest) = none := rfl

theorem tokensWith_of_blank {bytes : Bytes} (blank : bytes.all isBlankByte = true) {fuel : Nat}
    {tokens : List Token} (lexed : tokensWith fuel bytes = some tokens) : tokens = [] := by
  cases fuel with
  | zero =>
    rw [tokensWith] at lexed
    split_ifs at lexed
    exact (Option.some.inj lexed).symm
  | succ fuel =>
    rw [tokensWith] at lexed
    cases left : bytes.dropWhile isSpace with
    | nil =>
      rw [left] at lexed
      exact (Option.some.inj lexed).symm
    | cons byte rest =>
      have member : byte ∈ bytes := by
        have suffix := List.dropWhile_suffix (l := bytes) isSpace
        rw [left] at suffix
        exact suffix.subset (List.mem_cons_self ..)
      have blank : isBlankByte byte = true := List.all_eq_true.mp blank byte member
      have visible : isSpace byte = false := by
        have head := List.head_dropWhile_not (l := bytes) isSpace (by simp [left])
        simpa only [left, List.head_cons] using head
      obtain rfl : byte = 0x0C := by
        simp only [isBlankByte, isSpace] at blank visible
        grind
      simp only [left, token?_of_formFeed] at lexed
      cases lexed

/-- A blank message is no JSON text. -/
theorem parse?_of_blank {bytes : Bytes} (blank : bytes.all isBlankByte = true) :
    parse? bytes = none := by
  rw [parse?, Tree.parse?, tokens?]
  cases lexed : tokensWith bytes.length bytes with
  | none => rfl
  | some tokens =>
    obtain rfl := tokensWith_of_blank blank lexed
    rfl

mutual

/-- The tree of a value without fractions is read as the value. -/
theorem value?_ofJson : ∀ (value : Json) (limit : Nat), value.isWellFormed = true →
    value.isFloatFree = true → value.depth ≤ limit → (Tree.ofJson value).value? limit = some value
  | .null, _, _, _, _ => by rw [Tree.ofJson, Tree.value?]
  | .bool _, _, _, _, _ => by rw [Tree.ofJson, Tree.value?]
  | .int value, _, word, _, _ => by
    rw [isWellFormed] at word
    rw [Tree.ofJson, Tree.value?, value?_ofNat word]
  | .float _, _, _, free, _ => by cases free
  | .string text, _, _, _, _ => by
    rw [Tree.ofJson, Tree.value?, text?_textPieces]
    rfl
  | .array items, limit, formed, free, deep => by
    rw [isWellFormed] at formed
    rw [isFloatFree] at free
    rw [depth] at deep
    obtain ⟨limit, rfl⟩ : ∃ less, limit = less + 1 := ⟨limit - 1, by omega⟩
    rw [Tree.ofJson, Tree.value?, itemValues?_ofItems items limit formed free (by omega)]
    rfl
  | .object fields, limit, formed, free, deep => by
    rw [isWellFormed, Bool.and_eq_true, decide_eq_true_eq] at formed
    rw [isFloatFree] at free
    rw [depth] at deep
    obtain ⟨limit, rfl⟩ : ∃ less, limit = less + 1 := ⟨limit - 1, by omega⟩
    rw [Tree.ofJson, Tree.value?, fieldValues?_ofFields fields limit formed.2 free (by omega),
      Option.map_some, Json.ofFields, sortFields_of_ascending formed.1]

theorem itemValues?_ofItems : ∀ (items : List Json) (limit : Nat), areWellFormed items = true →
    areFloatFree items = true → itemsDepth items ≤ limit →
    Tree.itemValues? limit (Tree.ofItems items) = some items
  | [], _, _, _, _ => by rw [Tree.ofItems, Tree.itemValues?]
  | item :: rest, limit, formed, free, deep => by
    rw [areWellFormed, Bool.and_eq_true] at formed
    rw [areFloatFree, Bool.and_eq_true] at free
    rw [itemsDepth] at deep
    have first := value?_ofJson item limit formed.1 free.1 (by omega)
    have others := itemValues?_ofItems rest limit formed.2 free.2 (by omega)
    simp only [Tree.ofItems, Tree.itemValues?, first, others, Option.bind_eq_bind, Option.bind_some]

theorem fieldValues?_ofFields : ∀ (fields : List (String × Json)) (limit : Nat),
    areFieldsWellFormed fields = true → areFieldsFloatFree fields = true →
    fieldsDepth fields ≤ limit → Tree.fieldValues? limit (Tree.ofFields fields) = some fields
  | [], _, _, _, _ => by rw [Tree.ofFields, Tree.fieldValues?]
  | (name, value) :: rest, limit, formed, free, deep => by
    rw [areFieldsWellFormed, Bool.and_eq_true] at formed
    rw [areFieldsFloatFree, Bool.and_eq_true] at free
    rw [fieldsDepth] at deep
    have first := value?_ofJson value limit formed.1 free.1 (by omega)
    have others := fieldValues?_ofFields rest limit formed.2 free.2 (by omega)
    simp only [Tree.ofFields, Tree.fieldValues?, text?_textPieces, first, others,
      Option.bind_eq_bind, Option.bind_some]

end

/-- A printed value without fractions is read as itself. -/
theorem parse?_render {value : Json} (formed : value.isWellFormed = true)
    (free : value.isFloatFree = true) (shallow : value.depth ≤ maxDepth) :
    parse? (utf8 value.render) = some value := by
  rw [parse?, (writes_render value).parse?]
  exact value?_ofJson value maxDepth formed free shallow

/-- Whether a value is read back from its text. -/
structure Survives (value : Json) : Prop where
  formed : value.isWellFormed = true
  free : value.isFloatFree = true
  shallow : value.depth ≤ maxDepth

theorem survives_object_iff {fields : List (String × Json)} :
    (object fields).Survives ↔ Ascending fields ∧ ∀ field ∈ fields,
      field.2.isWellFormed = true ∧ field.2.isFloatFree = true ∧ field.2.depth < maxDepth := by
  have shallow : (object fields).depth ≤ maxDepth ↔ ∀ field ∈ fields, field.2.depth < maxDepth := by
    simp only [depth, maxDepth, Nat.lt_succ_iff, ← fieldsDepth_le_iff]
    omega
  constructor
  · rintro ⟨formed, free, deep⟩
    obtain ⟨ascending, formed⟩ := isWellFormed_object.mp formed
    have free := areFieldsFloatFree_eq_true_iff.mp free
    have deep := shallow.mp deep
    exact ⟨ascending, fun field member => ⟨formed field member, free field member, deep field member⟩⟩
  · rintro ⟨ascending, parts⟩
    exact ⟨isWellFormed_object.mpr ⟨ascending, fun field member => (parts field member).1⟩,
      areFieldsFloatFree_eq_true_iff.mpr fun field member => (parts field member).2.1,
      shallow.mpr fun field member => (parts field member).2.2⟩

theorem mem_of_findField {name : String} {value : Json} {fields : List (String × Json)}
    (found : findField name fields = some value) : (name, value) ∈ fields := by
  induction fields with
  | nil => cases found
  | cons field rest ih =>
    rw [findField] at found
    split_ifs at found with same
    · cases found
      exact same ▸ List.mem_cons_self ..
    · exact List.mem_cons_of_mem _ (ih found)

/-- The values of printed fields are read one by one. -/
theorem findField_fieldValues? {limit : Nat} {fields values : List (String × Json)}
    (read : Tree.fieldValues? limit (Tree.ofFields fields) = some values) (name : String) :
    findField name values =
      (findField name fields).bind fun value => (Tree.ofJson value).value? limit := by
  induction fields generalizing values with
  | nil =>
    obtain rfl : [] = values := Option.some.inj read
    rfl
  | cons field rest ih =>
    obtain ⟨other, value⟩ := field
    simp only [Tree.ofFields, Tree.fieldValues?, text?_textPieces, Option.bind_eq_bind,
      Option.bind_some, Option.bind_eq_some_iff, Option.some.injEq] at read
    obtain ⟨back, first, others, later, rfl⟩ := read
    rw [findField, findField]
    split_ifs with found
    · exact first.symm
    · exact ih later

theorem names_fieldValues? {limit : Nat} {fields values : List (String × Json)}
    (read : Tree.fieldValues? limit (Tree.ofFields fields) = some values) :
    values.map Prod.fst = fields.map Prod.fst := by
  induction fields generalizing values with
  | nil =>
    obtain rfl : [] = values := Option.some.inj read
    rfl
  | cons field rest ih =>
    simp only [Tree.ofFields, Tree.fieldValues?, text?_textPieces, Option.bind_eq_bind,
      Option.bind_some, Option.bind_eq_some_iff, Option.some.injEq] at read
    obtain ⟨back, -, others, later, rfl⟩ := read
    rw [List.map_cons, List.map_cons, ih later]

theorem ascending_iff_names {fields : List (String × Json)} :
    Ascending fields ↔ (fields.map Prod.fst).Pairwise (· < ·) := List.pairwise_map.symm

/-- What is read of a printed object is an object of the same names, and each value is what is read of
the value printed. -/
theorem parse?_render_object {fields : List (String × Json)} (ascending : Ascending fields) {value : Json}
    (read : parse? (utf8 (object fields).render) = some value) :
    ∃ values, value = .object values ∧ ∀ name, findField name values =
      (findField name fields).bind fun value => (Tree.ofJson value).value? (maxDepth - 1) := by
  rw [parse?, (writes_render _).parse?, Option.bind_eq_bind, Option.bind_some, Tree.ofJson] at read
  obtain ⟨values, found, rfl⟩ := Option.map_eq_some_iff.mp read
  have sorted : Ascending values := by
    rwa [ascending_iff_names, names_fieldValues? found, ← ascending_iff_names]
  refine ⟨values, ?_, findField_fieldValues? found⟩
  rw [ofFields, sortFields_of_ascending sorted]

end Gateway.Json
