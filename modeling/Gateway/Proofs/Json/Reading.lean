import Gateway.Proofs.Json.Grammar

/-! # What is read is spelled

Every text that is read is one that the grammar derives: bytes are taken apart as they are read, token by
token, and put together again as the grammar has it. So a text is read exactly if it spells a form whose
numbers denote one and which nests no deeper than is read, and its value is the value of that form.
-/

namespace Gateway.Json

namespace Tree

mutual

/-- A tree has a value exactly if its form has one and is not too deep. -/
theorem value?_eq_some_iff : ∀ (tree : Tree) (limit : Nat) (value : Json),
    tree.value? limit = some value ↔
      ∃ form, tree.form? = some form ∧ form.depth ≤ limit ∧ form.InRange ∧ form.value = value
  | .null, limit, value => by
    simp [value?, form?, Form.depth, Form.InRange, Form.literals, Form.value]
  | .bool b, limit, value => by
    simp [value?, form?, Form.depth, Form.InRange, Form.literals, Form.value]
  | .number literal, limit, value => by
    simp only [value?, form?, Option.some.injEq, exists_eq_left', Form.depth, Nat.zero_le, true_and,
      Form.InRange, Form.literals, List.mem_singleton, forall_eq, Form.value, ← Json.value?_eq_some_iff]
    cases literal.value? <;> simp
  | .string pieces, limit, value => by
    rw [value?, form?]
    cases text? pieces <;> simp [Form.depth, Form.InRange, Form.literals, Form.value]
  | .array items, limit, value => by
    rw [form?]
    cases limit with
    | zero => cases itemForms? items <;> simp [value?, Form.depth]
    | succ limit =>
      simp only [value?, Option.map_eq_some_iff, itemValues?_eq_some_iff items limit]
      constructor
      · rintro ⟨values, ⟨forms, formed, deep, range, rfl⟩, rfl⟩
        exact ⟨.array forms, ⟨forms, formed, rfl⟩, Nat.succ_le_succ deep, range, rfl⟩
      · rintro ⟨_, ⟨forms, formed, rfl⟩, deep, range, rfl⟩
        exact ⟨_, ⟨forms, formed, Nat.le_of_succ_le_succ deep, range, rfl⟩, rfl⟩
  | .object fields, limit, value => by
    rw [form?]
    cases limit with
    | zero => cases fieldForms? fields <;> simp [value?, Form.depth]
    | succ limit =>
      simp only [value?, Option.map_eq_some_iff, fieldValues?_eq_some_iff fields limit]
      constructor
      · rintro ⟨values, ⟨forms, formed, deep, range, rfl⟩, rfl⟩
        exact ⟨.object forms, ⟨forms, formed, rfl⟩, Nat.succ_le_succ deep, range, rfl⟩
      · rintro ⟨_, ⟨forms, formed, rfl⟩, deep, range, rfl⟩
        exact ⟨_, ⟨forms, formed, Nat.le_of_succ_le_succ deep, range, rfl⟩, rfl⟩

theorem itemValues?_eq_some_iff : ∀ (items : List Tree) (limit : Nat) (values : List Json),
    itemValues? limit items = some values ↔
      ∃ forms, itemForms? items = some forms ∧ Form.itemsDepth forms ≤ limit ∧
        (∀ literal ∈ Form.itemLiterals forms, ∃ value, literal.Denotes value) ∧
        Form.itemValues forms = values
  | [], limit, values => by
    simp [itemValues?, itemForms?, Form.itemsDepth, Form.itemLiterals, Form.itemValues]
  | item :: rest, limit, values => by
    simp only [itemValues?, itemForms?, Option.bind_eq_bind, Option.bind_eq_some_iff,
      Option.some.injEq, value?_eq_some_iff item limit, itemValues?_eq_some_iff rest limit]
    constructor
    · rintro ⟨_, ⟨form, formed, deep, range, rfl⟩, _, ⟨forms, others, deeper, ranges, rfl⟩, rfl⟩
      exact ⟨form :: forms, ⟨form, formed, forms, others, rfl⟩, Nat.max_le.mpr ⟨deep, deeper⟩,
        List.forall_mem_append.mpr ⟨range, ranges⟩, rfl⟩
    · rintro ⟨_, ⟨form, formed, forms, others, rfl⟩, deep, range, rfl⟩
      obtain ⟨deep, deeper⟩ := Nat.max_le.mp deep
      obtain ⟨range, ranges⟩ := List.forall_mem_append.mp range
      exact ⟨_, ⟨form, formed, deep, range, rfl⟩, _, ⟨forms, others, deeper, ranges, rfl⟩, rfl⟩

theorem fieldValues?_eq_some_iff : ∀ (fields : List (List Piece × Tree)) (limit : Nat)
    (values : List (String × Json)),
    fieldValues? limit fields = some values ↔
      ∃ forms, fieldForms? fields = some forms ∧ Form.fieldsDepth forms ≤ limit ∧
        (∀ literal ∈ Form.fieldLiterals forms, ∃ value, literal.Denotes value) ∧
        Form.fieldValues forms = values
  | [], limit, values => by
    simp [fieldValues?, fieldForms?, Form.fieldsDepth, Form.fieldLiterals, Form.fieldValues]
  | (name, tree) :: rest, limit, values => by
    simp only [fieldValues?, fieldForms?, Option.bind_eq_bind, Option.bind_eq_some_iff,
      Option.some.injEq, value?_eq_some_iff tree limit, fieldValues?_eq_some_iff rest limit]
    constructor
    · rintro ⟨text, named, _, ⟨form, formed, deep, range, rfl⟩, _,
        ⟨forms, others, deeper, ranges, rfl⟩, rfl⟩
      exact ⟨(text, form) :: forms, ⟨text, named, form, formed, forms, others, rfl⟩,
        Nat.max_le.mpr ⟨deep, deeper⟩, List.forall_mem_append.mpr ⟨range, ranges⟩, rfl⟩
    · rintro ⟨_, ⟨text, named, form, formed, forms, others, rfl⟩, deep, range, rfl⟩
      obtain ⟨deep, deeper⟩ := Nat.max_le.mp deep
      obtain ⟨range, ranges⟩ := List.forall_mem_append.mp range
      exact ⟨text, named, _, ⟨form, formed, deep, range, rfl⟩, _,
        ⟨forms, others, deeper, ranges, rfl⟩, rfl⟩

end

/-- Whether whatever is read with some fuel begins with the tokens of what it is read as. -/
structure Recognizes (fuel : Nat) : Prop where
  tree : ∀ {tokens tree rest}, read? fuel tokens = some (tree, rest) → tokens = tree.tokens ++ rest
  items : ∀ {tokens items rest}, readItems? fuel tokens = some (items, rest) →
    items ≠ [] ∧ tokens = itemTokens items ++ rest
  fields : ∀ {tokens fields rest}, readFields? fuel tokens = some (fields, rest) →
    fields ≠ [] ∧ tokens = fieldTokens fields ++ rest

namespace Recognizes

variable {fuel : Nat} {tokens rest : List Token}

theorem tree_succ (recognizes : Recognizes fuel) {tree : Tree}
    (read : read? (fuel + 1) tokens = some (tree, rest)) : tokens = tree.tokens ++ rest := by
  cases tokens with
  | nil => simp [read?] at read
  | cons token tokens =>
    simp only [read?] at read
    split at read
    iterate 4
      · cases read
        rfl
    · split at read
      · cases read
        rfl
      · obtain ⟨⟨items, after⟩, found, same⟩ := Option.map_eq_some_iff.mp read
        cases same
        rw [(recognizes.items found).2]
        rfl
    · split at read
      · cases read
        rfl
      · obtain ⟨⟨fields, after⟩, found, same⟩ := Option.map_eq_some_iff.mp read
        cases same
        rw [(recognizes.fields found).2]
        rfl
    · cases read

theorem items_succ (recognizes : Recognizes fuel) {items : List Tree}
    (read : readItems? (fuel + 1) tokens = some (items, rest)) :
    items ≠ [] ∧ tokens = itemTokens items ++ rest := by
  simp only [readItems?, Option.bind_eq_bind, Option.bind_eq_some_iff] at read
  obtain ⟨⟨item, after⟩, first, read⟩ := read
  have front := recognizes.tree first
  split at read
  · rename_i next shape
    obtain ⟨⟨others, later⟩, found, same⟩ := Option.bind_eq_some_iff.mp read
    cases shape
    cases same
    obtain ⟨nonempty, back⟩ := recognizes.items found
    obtain ⟨other, others, rfl⟩ := List.exists_cons_of_ne_nil nonempty
    exact ⟨List.cons_ne_nil _ _, by simp [front, back, itemTokens]⟩
  · rename_i shape
    cases shape
    cases read
    exact ⟨List.cons_ne_nil _ _, by simp [front, itemTokens]⟩
  · cases read

theorem fields_succ (recognizes : Recognizes fuel) {fields : List (List Piece × Tree)}
    (read : readFields? (fuel + 1) tokens = some (fields, rest)) :
    fields ≠ [] ∧ tokens = fieldTokens fields ++ rest := by
  rw [readFields?.eq_def] at read
  split at read
  · cases read
  · rename_i same
    cases same
    simp only [Option.bind_eq_bind, Option.bind_eq_some_iff] at read
    obtain ⟨⟨tree, after⟩, first, read⟩ := read
    have front := recognizes.tree first
    split at read
    · rename_i next shape
      obtain ⟨⟨others, later⟩, found, same⟩ := Option.bind_eq_some_iff.mp read
      cases shape
      cases same
      obtain ⟨nonempty, back⟩ := recognizes.fields found
      obtain ⟨other, others, rfl⟩ := List.exists_cons_of_ne_nil nonempty
      exact ⟨List.cons_ne_nil _ _, by simp [front, back, fieldTokens]⟩
    · rename_i shape
      cases shape
      cases read
      exact ⟨List.cons_ne_nil _ _, by simp [front, fieldTokens]⟩
    · cases read
  · cases read

end Recognizes

theorem recognizes : ∀ fuel : Nat, Recognizes fuel
  | 0 => ⟨nofun, nofun, nofun⟩
  | fuel + 1 => ⟨(recognizes fuel).tree_succ, (recognizes fuel).items_succ,
      (recognizes fuel).fields_succ⟩

theorem tokens?_of_parse? {bytes : Bytes} {tree : Tree} (read : parse? bytes = some tree) :
    tokens? bytes = some tree.tokens := by
  simp only [parse?, Option.bind_eq_bind, Option.bind_eq_some_iff] at read
  obtain ⟨tokens, lexed, ⟨found, rest⟩, grown, read⟩ := read
  split at read
  · rename_i same
    cases same
    cases read
    rw [lexed, (recognizes _).tree grown, List.append_nil]
  · cases read

end Tree

/-- Whether bytes are taken apart into tokens. -/
def Yields (bytes : Bytes) (tokens : List Token) : Prop :=
  ∃ fuel, tokensWith fuel bytes = some tokens

/-- Whether a token stands at the front of bytes, followed by the rest. -/
def Token.Leads (bytes rest : Bytes) : Token → Prop
  | .leftBrace => bytes = 0x7B :: rest
  | .rightBrace => bytes = 0x7D :: rest
  | .leftBracket => bytes = 0x5B :: rest
  | .rightBracket => bytes = 0x5D :: rest
  | .colon => bytes = 0x3A :: rest
  | .comma => bytes = 0x2C :: rest
  | .null => bytes = 0x6E :: 0x75 :: 0x6C :: 0x6C :: rest
  | .bool true => bytes = 0x74 :: 0x72 :: 0x75 :: 0x65 :: rest
  | .bool false => bytes = 0x66 :: 0x61 :: 0x6C :: 0x73 :: 0x65 :: rest
  | .number literal => number? bytes = some (literal, rest)
  | .string pieces => ∃ after, bytes = 0x22 :: after ∧ string? after = some (pieces, rest)

theorem leads_of_token? {bytes rest : Bytes} {token : Token}
    (read : token? bytes = some (token, rest)) : token.Leads bytes rest := by
  rw [token?.eq_def] at read
  split at read
  · cases read
  iterate 9
    · cases read
      rfl
  · obtain ⟨⟨pieces, after⟩, found, same⟩ := Option.map_eq_some_iff.mp read
    cases same
    exact ⟨_, rfl, found⟩
  · obtain ⟨⟨literal, after⟩, found, same⟩ := Option.map_eq_some_iff.mp read
    cases same
    exact found

theorem exists_gap {bytes : Bytes} (blank : ∀ byte ∈ bytes, isSpace byte = true) :
    ∃ gap, IsGap gap ∧ bytes = charBytes gap := by
  induction bytes with
  | nil => exact ⟨[], by simp [IsGap], rfl⟩
  | cons byte bytes ih =>
    obtain ⟨space, others⟩ := List.forall_mem_cons.mp blank
    obtain ⟨gap, spaces, rfl⟩ := ih others
    simp only [isSpace, Bool.or_eq_true, decide_eq_true_eq] at space
    obtain ((rfl | rfl) | rfl) | rfl := space
    · exact ⟨' ' :: gap, List.forall_mem_cons.mpr ⟨by decide, spaces⟩, rfl⟩
    · exact ⟨'\t' :: gap, List.forall_mem_cons.mpr ⟨by decide, spaces⟩, rfl⟩
    · exact ⟨'\n' :: gap, List.forall_mem_cons.mpr ⟨by decide, spaces⟩, rfl⟩
    · exact ⟨'\r' :: gap, List.forall_mem_cons.mpr ⟨by decide, spaces⟩, rfl⟩

theorem exists_front_gap (bytes : Bytes) :
    ∃ gap, IsGap gap ∧ bytes = charBytes gap ++ bytes.dropWhile isSpace := by
  obtain ⟨gap, blank, spaces⟩ := exists_gap fun byte member =>
    List.all_eq_true.mp (List.all_takeWhile (p := isSpace) (l := bytes)) byte member
  exact ⟨gap, blank, by rw [← spaces, List.takeWhile_append_dropWhile]⟩

/-- Where no token is left, there is white space only. -/
theorem Yields.nil {bytes : Bytes} (yields : Yields bytes []) :
    ∃ gap, IsGap gap ∧ bytes = charBytes gap := by
  obtain ⟨fuel, lexed⟩ := yields
  cases fuel with
  | zero =>
    rw [tokensWith] at lexed
    split_ifs at lexed with blank
    exact exists_gap fun byte member => List.all_eq_true.mp blank byte member
  | succ fuel =>
    obtain ⟨gap, blank, shape⟩ := exists_front_gap bytes
    rw [tokensWith] at lexed
    split at lexed
    · rename_i none
      rw [none, List.append_nil] at shape
      exact ⟨gap, blank, shape⟩
    · simp [Option.bind_eq_some_iff] at lexed

/-- A token stands after white space and before what yields the other tokens. -/
theorem Yields.cons {bytes : Bytes} {token : Token} {tokens : List Token}
    (yields : Yields bytes (token :: tokens)) :
    ∃ gap front rest, IsGap gap ∧ bytes = charBytes gap ++ front ∧ token.Leads front rest ∧
      Yields rest tokens := by
  obtain ⟨fuel, lexed⟩ := yields
  cases fuel with
  | zero =>
    rw [tokensWith] at lexed
    split_ifs at lexed
    cases lexed
  | succ fuel =>
    obtain ⟨gap, blank, shape⟩ := exists_front_gap bytes
    rw [tokensWith] at lexed
    split at lexed
    · cases lexed
    · simp only [Option.bind_eq_bind, Option.bind_eq_some_iff, Option.some.injEq] at lexed
      obtain ⟨⟨found, rest⟩, first, others, later, same⟩ := lexed
      cases same
      exact ⟨gap, _, rest, blank, shape, leads_of_token? first, fuel, later⟩

theorem eq_utf8_of_ofUtf8? {bytes : Bytes} {text : String} (read : ofUtf8? bytes = some text) :
    bytes = utf8 text := by
  rw [ofUtf8?, String.fromUTF8?] at read
  split_ifs at read
  obtain rfl := Option.some.inj read
  simp [utf8, String.fromUTF8]

/-- A string token that spells well-formed text is spelled. -/
theorem spelled_of_leads {pieces : List Piece} {bytes rest : Bytes} {name : String}
    (leads : (Token.string pieces).Leads bytes rest) (spells : text? pieces = some name) :
    ∃ chars, SpellsText chars name.toList ∧ bytes = 0x22 :: (charBytes chars ++ 0x22 :: rest) := by
  obtain ⟨after, rfl, read⟩ := leads
  obtain ⟨spelled, found, valid⟩ := Option.bind_eq_some_iff.mp spells
  rw [eq_utf8_of_ofUtf8? valid, ← charBytes_toList] at found
  obtain ⟨chars, spells, rfl⟩ := spelled_of_string? read found
  exact ⟨chars, spells, rfl⟩

/-- A value that another token follows is spelled with the white space on both sides of it. -/
theorem Yields.spaced {gap chars : List Char} {form : Form} (blank : IsGap gap)
    (spells : Spells chars (.value form)) {bytes : Bytes} {token : Token} {tokens : List Token}
    (yields : Yields bytes (token :: tokens)) :
    ∃ text front rest, Spells text (.spaced form) ∧
      charBytes gap ++ (charBytes chars ++ bytes) = charBytes text ++ front ∧
      token.Leads front rest ∧ Yields rest tokens := by
  obtain ⟨after, front, rest, spaces, rfl, leads, later⟩ := yields.cons
  exact ⟨_, front, rest, .spaced blank spells spaces, by simp [charBytes_append], leads, later⟩

/-- The name of a field is spelled with the white space around it. -/
theorem Yields.name {bytes : Bytes} {pieces : List Piece} {tokens : List Token} {name : String}
    (yields : Yields bytes (.string pieces :: .colon :: tokens)) (spells : text? pieces = some name) :
    ∃ front rest, (∀ {chars form}, Spells chars (.spaced form) →
        Spells (front ++ chars) (.member name form)) ∧
      bytes = charBytes front ++ rest ∧ Yields rest tokens := by
  obtain ⟨before, _, _, blank, rfl, leads, inside⟩ := yields.cons
  obtain ⟨chars, spelled, rfl⟩ := spelled_of_leads leads spells
  obtain ⟨after, _, rest, spaces, rfl, rfl, later⟩ := inside.cons
  refine ⟨before ++ '"' :: (chars ++ '"' :: (after ++ [':'])), rest, fun value => ?_, ?_, later⟩
  · have member := Spells.member blank spelled spaces value
    rw [String.ofList_toList] at member
    simpa using member
  · simp [charBytes_append, charBytes_cons_of_ascii]

mutual

/-- Bytes that yield the tokens of a tree whose form is known spell that form, after white space and
before what yields the other tokens. -/
theorem spelled_of_tokens : ∀ (tree : Tree) {form : Form} {bytes : Bytes} {tokens : List Token},
    tree.form? = some form → Yields bytes (tree.tokens ++ tokens) →
    ∃ gap chars rest, IsGap gap ∧ Spells chars (.value form) ∧
      bytes = charBytes gap ++ (charBytes chars ++ rest) ∧ Yields rest tokens
  | .null, _, _, _, formed, yields => by
    cases formed
    obtain ⟨gap, front, rest, blank, rfl, rfl, later⟩ := yields.cons
    exact ⟨gap, _, rest, blank, .null, rfl, later⟩
  | .bool true, _, _, _, formed, yields => by
    cases formed
    obtain ⟨gap, front, rest, blank, rfl, rfl, later⟩ := yields.cons
    exact ⟨gap, _, rest, blank, .true, rfl, later⟩
  | .bool false, _, _, _, formed, yields => by
    cases formed
    obtain ⟨gap, front, rest, blank, rfl, rfl, later⟩ := yields.cons
    exact ⟨gap, _, rest, blank, .false, rfl, later⟩
  | .number literal, _, _, _, formed, yields => by
    cases formed
    obtain ⟨gap, front, rest, blank, rfl, leads, later⟩ := yields.cons
    obtain ⟨chars, spells, rfl⟩ := spelled_of_number? leads
    exact ⟨gap, _, rest, blank, .number spells, rfl, later⟩
  | .string pieces, _, _, _, formed, yields => by
    rw [Tree.form?] at formed
    obtain ⟨name, read, rfl⟩ := Option.map_eq_some_iff.mp formed
    obtain ⟨gap, front, rest, blank, rfl, leads, later⟩ := yields.cons
    obtain ⟨chars, spelled, rfl⟩ := spelled_of_leads leads read
    have spells := Spells.string spelled
    rw [String.ofList_toList] at spells
    exact ⟨gap, _, rest, blank, spells,
      by simp [charBytes_enclosed], later⟩
  | .array [], _, _, _, formed, yields => by
    cases formed
    obtain ⟨gap, _, _, blank, rfl, rfl, inside⟩ := yields.cons
    obtain ⟨inner, _, rest, spaces, rfl, rfl, later⟩ := inside.cons
    exact ⟨gap, _, rest, blank, .emptyArray spaces,
      by simp [charBytes_enclosed], later⟩
  | .array (item :: items), _, _, _, formed, yields => by
    rw [Tree.form?] at formed
    obtain ⟨forms, read, rfl⟩ := Option.map_eq_some_iff.mp formed
    obtain ⟨gap, _, _, blank, rfl, rfl, inside⟩ := yields.cons
    obtain ⟨chars, rest, spells, rfl, later⟩ :=
      spelled_of_itemTokens (item :: items) (by simp) read inside
    exact ⟨gap, _, rest, blank, .array spells,
      by simp [charBytes_enclosed], later⟩
  | .object [], _, _, _, formed, yields => by
    cases formed
    obtain ⟨gap, _, _, blank, rfl, rfl, inside⟩ := yields.cons
    obtain ⟨inner, _, rest, spaces, rfl, rfl, later⟩ := inside.cons
    exact ⟨gap, _, rest, blank, .emptyObject spaces,
      by simp [charBytes_enclosed], later⟩
  | .object (field :: fields), _, _, _, formed, yields => by
    rw [Tree.form?] at formed
    obtain ⟨forms, read, rfl⟩ := Option.map_eq_some_iff.mp formed
    obtain ⟨gap, _, _, blank, rfl, rfl, inside⟩ := yields.cons
    obtain ⟨chars, rest, spells, rfl, later⟩ :=
      spelled_of_fieldTokens (field :: fields) (by simp) read inside
    exact ⟨gap, _, rest, blank, .object spells,
      by simp [charBytes_enclosed], later⟩

theorem spelled_of_itemTokens : ∀ (items : List Tree), items ≠ [] → ∀ {forms : List Form}
    {bytes : Bytes} {tokens : List Token}, Tree.itemForms? items = some forms →
    Yields bytes (Tree.itemTokens items ++ tokens) →
    ∃ chars rest, Spells chars (.items forms) ∧ bytes = charBytes chars ++ 0x5D :: rest ∧
      Yields rest tokens
  | [], nonempty, _, _, _, _, _ => absurd rfl nonempty
  | [item], _, _, _, _, formed, yields => by
    simp only [Tree.itemForms?, Option.bind_eq_bind, Option.bind_eq_some_iff,
      Option.some.injEq] at formed
    obtain ⟨form, read, _, rfl, rfl⟩ := formed
    rw [Tree.itemTokens, List.append_assoc] at yields
    obtain ⟨gap, chars, _, blank, spells, rfl, inside⟩ := spelled_of_tokens item read yields
    obtain ⟨text, _, rest, spaced, shape, rfl, later⟩ := inside.spaced blank spells
    exact ⟨text, rest, .item spaced, shape, later⟩
  | item :: next :: others, _, _, _, _, formed, yields => by
    rw [Tree.itemForms?] at formed
    simp only [Option.bind_eq_bind, Option.bind_eq_some_iff, Option.some.injEq] at formed
    obtain ⟨form, read, forms, reads, rfl⟩ := formed
    rw [Tree.itemTokens, List.append_assoc] at yields
    obtain ⟨gap, chars, _, blank, spells, rfl, inside⟩ := spelled_of_tokens item read yields
    obtain ⟨text, _, _, spaced, shape, rfl, later⟩ := inside.spaced blank spells
    obtain ⟨more, rest, follows, rfl, after⟩ :=
      spelled_of_itemTokens (next :: others) (by simp) reads later
    refine ⟨text ++ ',' :: more, rest, .items spaced follows, ?_, after⟩
    rw [shape, charBytes_append, charBytes_cons_of_ascii (by decide), List.append_assoc]
    rfl

theorem spelled_of_fieldTokens : ∀ (fields : List (List Piece × Tree)), fields ≠ [] →
    ∀ {forms : List (String × Form)} {bytes : Bytes} {tokens : List Token},
    Tree.fieldForms? fields = some forms → Yields bytes (Tree.fieldTokens fields ++ tokens) →
    ∃ chars rest, Spells chars (.fields forms) ∧ bytes = charBytes chars ++ 0x7D :: rest ∧
      Yields rest tokens
  | [], nonempty, _, _, _, _, _ => absurd rfl nonempty
  | [(name, value)], _, _, _, _, formed, yields => by
    simp only [Tree.fieldForms?, Option.bind_eq_bind, Option.bind_eq_some_iff,
      Option.some.injEq] at formed
    obtain ⟨text, named, form, read, _, rfl, rfl⟩ := formed
    obtain ⟨front, _, member, rfl, inside⟩ :=
      Yields.name (by simpa [Tree.fieldTokens] using yields) named
    obtain ⟨gap, chars, _, blank, spells, rfl, after⟩ := spelled_of_tokens value read inside
    obtain ⟨text, _, rest, spaced, shape, rfl, later⟩ := after.spaced blank spells
    refine ⟨front ++ text, rest, .field (member spaced), ?_, later⟩
    rw [shape, charBytes_append, List.append_assoc]
  | (name, value) :: next :: others, _, _, _, _, formed, yields => by
    rw [Tree.fieldForms?] at formed
    simp only [Option.bind_eq_bind, Option.bind_eq_some_iff, Option.some.injEq] at formed
    obtain ⟨text, named, form, read, forms, reads, rfl⟩ := formed
    obtain ⟨front, _, member, rfl, inside⟩ :=
      Yields.name (by simpa [Tree.fieldTokens] using yields) named
    obtain ⟨gap, chars, _, blank, spells, rfl, after⟩ := spelled_of_tokens value read inside
    obtain ⟨text, _, _, spaced, shape, rfl, later⟩ := after.spaced blank spells
    obtain ⟨more, rest, follows, rfl, last⟩ :=
      spelled_of_fieldTokens (next :: others) (by simp) reads later
    refine ⟨(front ++ text) ++ ',' :: more, rest, .fields (member spaced) follows, ?_, last⟩
    rw [shape, charBytes_append, charBytes_append, charBytes_cons_of_ascii (by decide),
      List.append_assoc, List.append_assoc]
    rfl

end

/-- A text that is read as a tree of some form spells that form. -/
theorem spells_of_parse? {bytes : Bytes} {tree : Tree} {form : Form}
    (read : Tree.parse? bytes = some tree) (formed : tree.form? = some form) :
    ∃ text : String, bytes = utf8 text ∧ Spells text.toList (.spaced form) := by
  have yields : Yields bytes (tree.tokens ++ []) := by
    rw [List.append_nil]
    exact ⟨_, Tree.tokens?_of_parse? read⟩
  obtain ⟨gap, chars, _, blank, spells, rfl, later⟩ := spelled_of_tokens tree formed yields
  obtain ⟨after, spaces, rfl⟩ := later.nil
  refine ⟨String.ofList (gap ++ (chars ++ after)), ?_, ?_⟩
  · rw [utf8_ofList, charBytes_append, charBytes_append]
  · rw [String.toList_ofList]
    exact .spaced blank spells spaces

/-- Whether bytes are the text of a form that is read: one whose numbers denote one and that nests no
deeper than is read. -/
structure IsTextOf (bytes : Bytes) (form : Form) : Prop where
  spells : ∃ text : String, bytes = utf8 text ∧ Spells text.toList (.spaced form)
  shallow : form.depth ≤ maxDepth
  range : form.InRange

/-- The texts that are read are those that the grammar derives from forms that are read, and their values
are the values of these forms. -/
theorem parse?_eq_some_iff {bytes : Bytes} {value : Json} :
    parse? bytes = some value ↔ ∃ form, IsTextOf bytes form ∧ form.value = value := by
  rw [parse?, Option.bind_eq_bind, Option.bind_eq_some_iff]
  constructor
  · rintro ⟨tree, read, valued⟩
    obtain ⟨form, formed, shallow, range, same⟩ := (Tree.value?_eq_some_iff _ _ _).mp valued
    exact ⟨form, ⟨spells_of_parse? read formed, shallow, range⟩, same⟩
  · rintro ⟨form, ⟨⟨text, rfl, spells⟩, shallow, range⟩, same⟩
    obtain ⟨tree, read, formed⟩ := parse?_of_spells spells
    exact ⟨tree, read, (Tree.value?_eq_some_iff _ _ _).mpr ⟨form, formed, shallow, range, same⟩⟩

theorem parse?_eq_none_iff {bytes : Bytes} : parse? bytes = none ↔ ∀ form, ¬ IsTextOf bytes form := by
  rw [Option.eq_none_iff_forall_ne_some]
  constructor
  · exact fun unread form text => unread _ (parse?_eq_some_iff.mpr ⟨form, text, rfl⟩)
  · intro other value read
    obtain ⟨form, text, -⟩ := parse?_eq_some_iff.mp read
    exact other form text

/-- A text has one form. -/
theorem IsTextOf.unique {bytes : Bytes} {one two : Form} (first : IsTextOf bytes one)
    (second : IsTextOf bytes two) : one = two := by
  obtain ⟨text, rfl, spells⟩ := first.spells
  obtain ⟨other, same, spells'⟩ := second.spells
  obtain ⟨tree, read, formed⟩ := parse?_of_spells spells
  obtain ⟨tree', read', formed'⟩ := parse?_of_spells spells'
  rw [← same, read] at read'
  cases read'
  exact Option.some.inj (formed.symm.trans formed')

end Gateway.Json
