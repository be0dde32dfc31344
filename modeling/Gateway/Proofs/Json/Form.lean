import Gateway.Proofs.Json.Denotation
import Gateway.Proofs.Json.Survival

/-! # Forms of JSON text

The form of a text is what is left of it when white space and the spelling of strings are disregarded.
The fields of an object stand in it as they were written, in order and with repetitions, and a number
keeps its digits. A form has a value if all its numbers denote one; of fields with the same name the last
one counts. Forms that differ only in the order of fields with different names and in what a later field
of the same name replaces are alike, and alike forms have the same value.
-/

namespace Gateway.Json

/-- The last field of a name. -/
def last? (name : String) (fields : List (String × α)) : Option α := fields.reverse.lookup name

@[simp] theorem last?_nil (name : String) : last? name ([] : List (String × α)) = none := rfl

theorem last?_append (name : String) (left right : List (String × α)) :
    last? name (left ++ right) = (last? name right).or (last? name left) := by
  rw [last?, List.reverse_append, List.lookup_append]
  rfl

theorem last?_cons (name : String) (field : String × α) (rest : List (String × α)) :
    last? name (field :: rest) =
      (last? name rest).or (if field.1 = name then some field.2 else none) := by
  obtain ⟨other, value⟩ := field
  have single : [(other, value)].lookup name = if other = name then some value else none := by
    by_cases same : other = name
    · rw [same, List.lookup_cons_self, if_pos rfl]
    · rw [List.lookup_cons, beq_false_of_ne (Ne.symm same), if_neg same, List.lookup_nil]
  rw [last?, List.reverse_cons, List.lookup_append, single]
  rfl

theorem last?_map (name : String) (f : α → β) (fields : List (String × α)) :
    last? name (fields.map fun field => (field.1, f field.2)) = (last? name fields).map f := by
  induction fields with
  | nil => rfl
  | cons field rest ih =>
    rw [List.map_cons, last?_cons, last?_cons, ih]
    cases last? name rest <;> simp [apply_ite (Option.map f)]

theorem last?_eq_none_iff {name : String} {fields : List (String × α)} :
    last? name fields = none ↔ name ∉ fields.map Prod.fst := by
  induction fields with
  | nil => simp
  | cons field rest ih =>
    rw [last?_cons, Option.or_eq_none_iff, ih]
    simp [eq_comm, and_comm]

/-- Where no name stands twice, every field is the last of its name. -/
theorem last?_of_mem {fields : List (String × α)} (distinct : (fields.map Prod.fst).Nodup)
    {field : String × α} (member : field ∈ fields) : last? field.1 fields = some field.2 := by
  induction fields with
  | nil => cases member
  | cons first rest ih =>
    obtain ⟨fresh, others⟩ := List.nodup_cons.mp distinct
    rw [last?_cons]
    obtain rfl | later := List.mem_cons.mp member
    · rw [last?_eq_none_iff.mpr fresh, if_pos rfl]
      rfl
    · rw [ih others later]
      rfl

/-- Of assignments to one name the last one counts. -/
theorem findField_sortFields (name : String) (assignments : List (String × Json)) :
    findField name (sortFields assignments) = last? name assignments := by
  suffices ∀ rest done : List (String × Json),
      findField name (rest.foldl (fun fields field => setField field.1 field.2 fields) done) =
        (last? name rest).or (findField name done) by
    rw [sortFields, this]
    cases last? name assignments <;> rfl
  intro rest
  induction rest with
  | nil => exact fun _ => rfl
  | cons field rest ih =>
    intro done
    rw [List.foldl_cons, ih, findField_setField, last?_cons]
    split_ifs <;> cases last? name rest <;> rfl

theorem findField_eq_none_of_lt {name : String} {fields : List (String × Json)}
    (after : ∀ field ∈ fields, name < field.1) : findField name fields = none := by
  induction fields with
  | nil => rfl
  | cons field rest ih =>
    have differs : field.1 ≠ name := fun same =>
      String.lt_irrefl _ (same ▸ after field (List.mem_cons_self ..))
    rw [findField, if_neg differs]
    exact ih fun other member => after other (List.mem_cons_of_mem _ member)

/-- No name that is found comes before the first. -/
theorem not_lt_of_findField {name other : String} {value found : Json} {rest : List (String × Json)}
    (ascending : Ascending ((other, value) :: rest))
    (has : findField name ((other, value) :: rest) = some found) : ¬ name < other := by
  intro before
  have ahead := (List.pairwise_cons.mp ascending).1
  rw [findField_eq_none_of_lt (List.forall_mem_cons.mpr
    ⟨before, fun field member => String.lt_trans before (ahead field member)⟩)] at has
  cases has

/-- Fields in order are determined by what is found under each name. -/
theorem eq_of_findField {one two : List (String × Json)} (first : Ascending one)
    (second : Ascending two) (agree : ∀ name, findField name one = findField name two) :
    one = two := by
  induction one generalizing two with
  | nil =>
    cases two with
    | nil => rfl
    | cons field rest => simpa [findField] using agree field.1
  | cons head rest ih =>
    obtain ⟨name, value⟩ := head
    cases two with
    | nil => simpa [findField] using agree name
    | cons head more =>
      obtain ⟨other, found⟩ := head
      obtain rfl : name = other := by
        have ahead := not_lt_of_findField second ((agree name).symm.trans (if_pos rfl))
        have behind := not_lt_of_findField first ((agree other).trans (if_pos rfl))
        exact String.le_antisymm (String.not_lt.mp behind) (String.not_lt.mp ahead)
      obtain ⟨before, sorted⟩ := List.pairwise_cons.mp first
      obtain ⟨ahead, ordered⟩ := List.pairwise_cons.mp second
      have here : value = found := by simpa [findField] using agree name
      rw [here, ih sorted ordered fun other => ?_]
      by_cases own : name = other
      · rw [← own, findField_eq_none_of_lt before, findField_eq_none_of_lt ahead]
      · simpa [findField, own] using agree other

theorem sortFields_congr {one two : List (String × Json)}
    (agree : ∀ name, last? name one = last? name two) : sortFields one = sortFields two :=
  eq_of_findField (ascending_sortFields one) (ascending_sortFields two) fun name => by
    rw [findField_sortFields, findField_sortFields, agree]

/-- What a text of one value says, with its numbers and fields as they are written. -/
inductive Form where
  | null
  | bool (value : Bool)
  | number (literal : Literal)
  | string (text : String)
  | array (items : List Form)
  | object (fields : List (String × Form))
deriving Inhabited

namespace Form

mutual

/-- How deep arrays and objects nest. -/
def depth : Form → Nat
  | .array items => itemsDepth items + 1
  | .object fields => fieldsDepth fields + 1
  | _ => 0

/-- How deep the items of an array nest. -/
def itemsDepth : List Form → Nat
  | [] => 0
  | item :: rest => max (depth item) (itemsDepth rest)

/-- How deep the values of an object nest. -/
def fieldsDepth : List (String × Form) → Nat
  | [] => 0
  | (_, form) :: rest => max (depth form) (fieldsDepth rest)

end

mutual

/-- The numbers in a form. -/
def literals : Form → List Literal
  | .number literal => [literal]
  | .array items => itemLiterals items
  | .object fields => fieldLiterals fields
  | _ => []

/-- The numbers in the items of an array. -/
def itemLiterals : List Form → List Literal
  | [] => []
  | item :: rest => literals item ++ itemLiterals rest

/-- The numbers in the values of an object. -/
def fieldLiterals : List (String × Form) → List Literal
  | [] => []
  | (_, form) :: rest => literals form ++ fieldLiterals rest

end

mutual

/-- The value of a form. A number that denotes nothing is left out of account as null. -/
def value : Form → Json
  | .null => .null
  | .bool value => .bool value
  | .number literal => literal.value?.getD .null
  | .string text => .string text
  | .array items => .array (itemValues items)
  | .object fields => .ofFields (fieldValues fields)

/-- The values of the items of an array. -/
def itemValues : List Form → List Json
  | [] => []
  | item :: rest => value item :: itemValues rest

/-- The names and values of the fields of an object. -/
def fieldValues : List (String × Form) → List (String × Json)
  | [] => []
  | (name, form) :: rest => (name, value form) :: fieldValues rest

end

/-- Whether every number denotes one. -/
def InRange (form : Form) : Prop := ∀ literal ∈ form.literals, ∃ value, literal.Denotes value

mutual

/-- The value that a form denotes. The fields of an object stand in order in its value, and of fields with
the same name only the last one. -/
inductive Denotes : Form → Json → Prop where
  | null : Denotes .null .null
  | bool (value : Bool) : Denotes (.bool value) (.bool value)
  | number {literal : Literal} {value : Json} : literal.Denotes value → Denotes (.number literal) value
  | string (text : String) : Denotes (.string text) (.string text)
  | array {items : List Form} {values : List Json} : ItemsDenote items values →
      Denotes (.array items) (.array values)
  | object {fields : List (String × Form)} {values sorted : List (String × Json)} :
      FieldsDenote fields values → Ascending sorted →
      (∀ name, findField name sorted = last? name values) → Denotes (.object fields) (.object sorted)

inductive ItemsDenote : List Form → List Json → Prop where
  | nil : ItemsDenote [] []
  | cons {item : Form} {value : Json} {items : List Form} {values : List Json} : Denotes item value →
      ItemsDenote items values → ItemsDenote (item :: items) (value :: values)

inductive FieldsDenote : List (String × Form) → List (String × Json) → Prop where
  | nil : FieldsDenote [] []
  | cons {name : String} {form : Form} {value : Json} {fields : List (String × Form)}
      {values : List (String × Json)} : Denotes form value → FieldsDenote fields values →
      FieldsDenote ((name, form) :: fields) ((name, value) :: values)

end

/-- Whether every number is written as a whole number in the range of a signed or unsigned word, other
than negative zero. -/
def IsIntegral (form : Form) : Prop := ∀ literal ∈ form.literals, ∃ n, literal.IsInteger n

theorem itemValues_eq_map (items : List Form) : itemValues items = items.map value := by
  induction items with
  | nil => rfl
  | cons item rest ih => rw [itemValues, ih, List.map_cons]

theorem fieldValues_eq_map (fields : List (String × Form)) :
    fieldValues fields = fields.map fun field => (field.1, field.2.value) := by
  induction fields with
  | nil => rfl
  | cons field rest ih => rw [fieldValues, ih, List.map_cons]

/-- What is found in the value of an object is the value of the last field of the name. -/
theorem findField_sortFields_fieldValues (name : String) (fields : List (String × Form)) :
    findField name (sortFields (fieldValues fields)) = (last? name fields).map value := by
  rw [findField_sortFields, fieldValues_eq_map, last?_map]

mutual

/-- A form whose numbers denote one denotes its value, and nothing else. -/
theorem denotes_iff : ∀ {form : Form} {json : Json},
    form.Denotes json ↔ form.InRange ∧ form.value = json
  | .null, json => by
    constructor
    · rintro ⟨⟩
      exact ⟨by simp [InRange, literals], rfl⟩
    · rintro ⟨-, rfl⟩
      exact .null
  | .bool b, json => by
    constructor
    · rintro ⟨⟩
      exact ⟨by simp [InRange, literals], rfl⟩
    · rintro ⟨-, rfl⟩
      exact .bool b
  | .number literal, json => by
    constructor
    · intro denotes
      cases denotes with
      | number denotes =>
        refine ⟨fun other member => ?_, ?_⟩
        · rw [List.mem_singleton.mp member]
          exact ⟨json, denotes⟩
        · rw [value, value?_eq_some_iff.mpr denotes, Option.getD_some]
    · rintro ⟨range, rfl⟩
      obtain ⟨json, denotes⟩ := range literal (List.mem_singleton.mpr rfl)
      rw [value, value?_eq_some_iff.mpr denotes, Option.getD_some]
      exact .number denotes
  | .string text, json => by
    constructor
    · rintro ⟨⟩
      exact ⟨by simp [InRange, literals], rfl⟩
    · rintro ⟨-, rfl⟩
      exact .string text
  | .array items, json => by
    constructor
    · intro denotes
      cases denotes with
      | array denote =>
        obtain ⟨range, rfl⟩ := itemsDenote_iff.mp denote
        exact ⟨range, rfl⟩
    · rintro ⟨range, rfl⟩
      exact .array (itemsDenote_iff.mpr ⟨range, rfl⟩)
  | .object fields, json => by
    constructor
    · intro denotes
      cases denotes with
      | object denote ascending agree =>
        obtain ⟨range, rfl⟩ := fieldsDenote_iff.mp denote
        refine ⟨range, ?_⟩
        rw [value, ofFields, eq_of_findField ascending (ascending_sortFields _) fun name => ?_]
        rw [agree, findField_sortFields]
    · rintro ⟨range, rfl⟩
      exact .object (fieldsDenote_iff.mpr ⟨range, rfl⟩) (ascending_sortFields _)
        fun name => findField_sortFields name _

theorem itemsDenote_iff : ∀ {items : List Form} {values : List Json}, ItemsDenote items values ↔
    (∀ literal ∈ itemLiterals items, ∃ value, literal.Denotes value) ∧ itemValues items = values
  | [], values => by
    constructor
    · rintro ⟨⟩
      exact ⟨by simp [itemLiterals], rfl⟩
    · rintro ⟨-, rfl⟩
      exact .nil
  | item :: rest, values => by
    rw [itemLiterals, List.forall_mem_append, itemValues]
    constructor
    · intro denote
      cases denote with
      | cons first others =>
        obtain ⟨range, rfl⟩ := denotes_iff.mp first
        obtain ⟨ranges, rfl⟩ := itemsDenote_iff.mp others
        exact ⟨⟨range, ranges⟩, rfl⟩
    · rintro ⟨⟨range, ranges⟩, rfl⟩
      exact .cons (denotes_iff.mpr ⟨range, rfl⟩) (itemsDenote_iff.mpr ⟨ranges, rfl⟩)

theorem fieldsDenote_iff : ∀ {fields : List (String × Form)} {values : List (String × Json)},
    FieldsDenote fields values ↔
      (∀ literal ∈ fieldLiterals fields, ∃ value, literal.Denotes value) ∧ fieldValues fields = values
  | [], values => by
    constructor
    · rintro ⟨⟩
      exact ⟨by simp [fieldLiterals], rfl⟩
    · rintro ⟨-, rfl⟩
      exact .nil
  | (name, form) :: rest, values => by
    rw [fieldLiterals, List.forall_mem_append, fieldValues]
    constructor
    · intro denote
      cases denote with
      | cons first others =>
        obtain ⟨range, rfl⟩ := denotes_iff.mp first
        obtain ⟨ranges, rfl⟩ := fieldsDenote_iff.mp others
        exact ⟨⟨range, ranges⟩, rfl⟩
    · rintro ⟨⟨range, ranges⟩, rfl⟩
      exact .cons (denotes_iff.mpr ⟨range, rfl⟩) (fieldsDenote_iff.mpr ⟨ranges, rfl⟩)

end

theorem IsIntegral.inRange {form : Form} (integral : form.IsIntegral) : form.InRange := by
  intro literal member
  obtain ⟨n, whole⟩ := integral literal member
  exact ⟨_, .integer whole⟩

theorem InRange.last? {fields : List (String × Form)} (range : (object fields).InRange)
    {name : String} {form : Form} (found : Json.last? name fields = some form) : form.InRange := by
  suffices ∀ fields : List (String × Form), Json.last? name fields = some form →
      ∀ literal ∈ form.literals, literal ∈ fieldLiterals fields from
    fun literal member => range literal (this fields found literal member)
  intro fields
  induction fields with
  | nil => rintro ⟨⟩
  | cons field rest ih =>
    intro found literal member
    rw [last?_cons, Option.or_eq_some_iff] at found
    rw [fieldLiterals, List.mem_append]
    obtain later | ⟨-, here⟩ := found
    · exact .inr (ih later literal member)
    · split_ifs at here
      obtain rfl := Option.some.inj here
      exact .inl member

theorem value_eq_null_iff {form : Form} (range : form.InRange) :
    form.value = .null ↔ form = .null := by
  cases form with
  | number literal =>
    obtain ⟨value, denotes⟩ := range literal (by simp [literals])
    have read := value?_eq_some_iff.mpr denotes
    obtain ⟨n, rfl⟩ | ⟨x, rfl⟩ := value?_cases read <;> simp [value, read]
  | _ => simp [value, ofFields]

theorem value_eq_string_iff {form : Form} {text : String} :
    form.value = .string text ↔ form = .string text := by
  cases form with
  | number literal =>
    cases read : literal.value? with
    | none => simp [value, read]
    | some value => obtain ⟨n, rfl⟩ | ⟨x, rfl⟩ := value?_cases read <;> simp [Form.value, read]
  | _ => simp [value, ofFields]

theorem value_eq_int_iff {form : Form} {n : Int} :
    form.value = .int n ↔ ∃ literal, form = .number literal ∧ literal.IsInteger n := by
  cases form with
  | number literal =>
    cases read : literal.value? <;> simp [value, read, ← value?_eq_int_iff]
  | _ => simp [value, ofFields]

theorem depth_number (literal : Literal) : (number literal).value.depth = 0 := by
  rw [value]
  cases read : literal.value? with
  | none => rfl
  | some value => obtain ⟨n, rfl⟩ | ⟨x, rfl⟩ := value?_cases read <;> rfl

mutual

/-- A value nests no deeper than its form. -/
theorem depth_value_le : ∀ form : Form, form.value.depth ≤ form.depth
  | .null => Nat.le_refl _
  | .bool _ => Nat.le_refl _
  | .number literal => Nat.le_of_eq (depth_number literal)
  | .string _ => Nat.le_refl _
  | .array items => Nat.succ_le_succ (itemsDepth_itemValues_le items)
  | .object fields => by
    have deep := fieldsDepth_le_iff.mp (fieldsDepth_fieldValues_le fields)
    exact Nat.succ_le_succ (fieldsDepth_le_iff.mpr fun field member => deep field (mem_sortFields member))

theorem itemsDepth_itemValues_le : ∀ items : List Form,
    Json.itemsDepth (itemValues items) ≤ itemsDepth items
  | [] => Nat.le_refl _
  | item :: rest => by
    have first := depth_value_le item
    have others := itemsDepth_itemValues_le rest
    simp only [itemValues, Json.itemsDepth, itemsDepth]
    omega

theorem fieldsDepth_fieldValues_le : ∀ fields : List (String × Form),
    Json.fieldsDepth (fieldValues fields) ≤ fieldsDepth fields
  | [] => Nat.le_refl _
  | (_, form) :: rest => by
    have first := depth_value_le form
    have others := fieldsDepth_fieldValues_le rest
    simp only [fieldValues, Json.fieldsDepth, fieldsDepth]
    omega

end

mutual

/-- Whole numbers leave no fraction in the value. -/
theorem isFloatFree_value : ∀ form : Form, form.IsIntegral → form.value.isFloatFree = true
  | .null, _ => rfl
  | .bool _, _ => rfl
  | .number literal, integral => by
    obtain ⟨n, whole⟩ := integral literal (List.mem_singleton.mpr rfl)
    rw [value, value?_eq_int_iff.mpr whole]
    rfl
  | .string _, _ => rfl
  | .array items, integral => areFloatFree_itemValues items integral
  | .object fields, integral => by
    have free := areFieldsFloatFree_eq_true_iff.mp (areFieldsFloatFree_fieldValues fields integral)
    exact areFieldsFloatFree_eq_true_iff.mpr fun field member => free field (mem_sortFields member)

theorem areFloatFree_itemValues : ∀ items : List Form,
    (∀ literal ∈ itemLiterals items, ∃ n, literal.IsInteger n) → areFloatFree (itemValues items) = true
  | [], _ => rfl
  | item :: rest, integral => by
    obtain ⟨first, others⟩ := List.forall_mem_append.mp integral
    rw [itemValues, areFloatFree, isFloatFree_value item first, areFloatFree_itemValues rest others]
    rfl

theorem areFieldsFloatFree_fieldValues : ∀ fields : List (String × Form),
    (∀ literal ∈ fieldLiterals fields, ∃ n, literal.IsInteger n) →
    areFieldsFloatFree (fieldValues fields) = true
  | [], _ => rfl
  | (_, form) :: rest, integral => by
    obtain ⟨first, others⟩ := List.forall_mem_append.mp integral
    rw [fieldValues, areFieldsFloatFree, isFloatFree_value form first,
      areFieldsFloatFree_fieldValues rest others]
    rfl

end

/-- Forms that differ in the order of fields with different names and in what a later field of the same
name replaces. -/
inductive Alike : Form → Form → Prop where
  | refl (form : Form) : Alike form form
  | symm {one two : Form} : Alike one two → Alike two one
  | trans {one two three : Form} : Alike one two → Alike two three → Alike one three
  | item {one two : Form} (before after : List Form) : Alike one two →
      Alike (.array (before ++ one :: after)) (.array (before ++ two :: after))
  | field {one two : Form} (name : String) (before after : List (String × Form)) : Alike one two →
      Alike (.object (before ++ (name, one) :: after)) (.object (before ++ (name, two) :: after))
  | swap {one two : String × Form} (before after : List (String × Form)) : one.1 ≠ two.1 →
      Alike (.object (before ++ one :: two :: after)) (.object (before ++ two :: one :: after))
  | repeated {field : String × Form} (before after : List (String × Form)) :
      field.1 ∈ after.map Prod.fst →
      Alike (.object (before ++ field :: after)) (.object (before ++ after))

theorem value_object_congr {one two : List (String × Form)}
    (agree : ∀ name, (last? name one).map value = (last? name two).map value) :
    (object one).value = (object two).value := by
  rw [value, value, ofFields, ofFields, sortFields_congr fun name => ?_]
  rw [fieldValues_eq_map, fieldValues_eq_map, last?_map, last?_map, agree]

/-- Forms that are alike have the same value. -/
theorem Alike.value_eq {one two : Form} (alike : Alike one two) : one.value = two.value := by
  induction alike with
  | refl form => rfl
  | symm _ ih => exact ih.symm
  | trans _ _ first second => exact first.trans second
  | item before after _ ih => simp only [value, itemValues_eq_map, List.map_append, List.map_cons, ih]
  | field name before after _ ih =>
    simp only [value, fieldValues_eq_map, List.map_append, List.map_cons, ih]
  | swap before after differs =>
    refine value_object_congr fun name => ?_
    rw [last?_append, last?_append, last?_cons, last?_cons, last?_cons, last?_cons]
    split_ifs with first second
    · exact absurd (second.trans first.symm) differs
    all_goals cases last? name after <;> rfl
  | @repeated field before after later =>
    refine value_object_congr fun name => ?_
    rw [last?_append, last?_append, last?_cons]
    split_ifs with own
    · subst own
      cases found : last? field.1 after with
      | none => exact absurd later (last?_eq_none_iff.mp found)
      | some form => rfl
    · rw [Option.or_none]

end Form

end Gateway.Json
