import Gateway.Json.Tree
import Gateway.Proofs.Json.Quote

/-! # Printed text as a tree

A text writes a tree when reading it yields the tree, whatever follows that could not go on its last
number. Objects and arrays whose parts are written so are written so themselves; so every printed value
writes a tree, `Tree.ofJson`. The tree of a value with no fraction is read back as that value.
-/

namespace Gateway.Json

theorem tokensWith_mono {fuel more : Nat} (enough : fuel ≤ more) {bytes : Bytes}
    {tokens : List Token} (lexed : tokensWith fuel bytes = some tokens) :
    tokensWith more bytes = some tokens := by
  induction fuel generalizing more bytes tokens with
  | zero =>
    rw [tokensWith] at lexed
    split_ifs at lexed with blank
    cases more with
    | zero => exact (if_pos blank).trans lexed
    | succ more =>
      have none : bytes.dropWhile isSpace = [] :=
        by
        rw [← List.append_nil bytes, List.dropWhile_append_of_pos (List.all_eq_true.mp blank)]
        rfl
      rw [tokensWith, none]
      exact lexed
  | succ fuel ih =>
    obtain ⟨more, rfl⟩ : ∃ less, more = less + 1 := ⟨more - 1, by omega⟩
    rw [tokensWith] at lexed ⊢
    cases left : bytes.dropWhile isSpace with
    | nil =>
      rw [left] at lexed
      exact lexed
    | cons byte rest =>
      simp only [left, Option.bind_eq_bind, Option.bind_eq_some_iff] at lexed ⊢
      obtain ⟨read, first, tokens, after, found⟩ := lexed
      exact ⟨read, first, tokens, ih (by omega) after, found⟩

/-- A token at the front that leaves the rest is the first token. -/
theorem tokens?_of_token? {front rest : Bytes} {token : Token} {tokens : List Token} {byte : UInt8}
    (starts : front.head? = some byte) (visible : isSpace byte = false)
    (first : token? (front ++ rest) = some (token, rest)) (lexed : tokens? rest = some tokens) :
    tokens? (front ++ rest) = some (token :: tokens) := by
  obtain _ | ⟨_, front⟩ := front
  · cases starts
  obtain rfl := Option.some.inj starts
  have length : rest.length ≤ (front ++ rest).length := by simp
  have after := tokensWith_mono length lexed
  rw [tokens?, List.cons_append, List.length_cons, tokensWith,
    List.dropWhile_cons_of_neg (by simp [visible])]
  rw [List.cons_append] at first
  simp only [first, after, Option.bind_eq_bind, Option.bind_some]

/-- The bytes are those of the tokens, whatever follows that could not go on a number. -/
def Lexes (bytes : Bytes) (tokens : List Token) : Prop :=
  ∀ rest more, Stops isNumeric rest → tokens? rest = some more →
    tokens? (bytes ++ rest) = some (tokens ++ more)

theorem Lexes.append {one two : Bytes} {first second : List Token} (left : Lexes one first)
    (right : Lexes two second) (stops : ∀ rest, Stops isNumeric (two ++ rest)) :
    Lexes (one ++ two) (first ++ second) := by
  intro rest more after lexed
  rw [List.append_assoc, List.append_assoc]
  exact left _ _ (stops rest) (right rest more after lexed)

theorem lexes_nil : Lexes [] [] := fun _ _ _ lexed => lexed

theorem lexes_of_token? {bytes : Bytes} {token : Token} {byte : UInt8}
    (starts : bytes.head? = some byte) (visible : isSpace byte = false)
    (first : ∀ rest, Stops isNumeric rest → token? (bytes ++ rest) = some (token, rest)) :
    Lexes bytes [token] := fun rest _ after lexed =>
  tokens?_of_token? starts visible (first rest after) lexed

/-- The bytes and the tokens of punctuation. -/
inductive Punctuates : UInt8 → Token → Prop where
  | leftBrace : Punctuates 0x7B .leftBrace
  | rightBrace : Punctuates 0x7D .rightBrace
  | leftBracket : Punctuates 0x5B .leftBracket
  | rightBracket : Punctuates 0x5D .rightBracket
  | colon : Punctuates 0x3A .colon
  | comma : Punctuates 0x2C .comma

namespace Punctuates

variable {byte : UInt8} {token : Token}

theorem visible (mark : Punctuates byte token) : isSpace byte = false := by
  cases mark <;> rfl

theorem stops (mark : Punctuates byte token) (rest : Bytes) : Stops isNumeric (byte :: rest) := by
  cases mark <;> exact stops_cons (by decide) rest

theorem token? (mark : Punctuates byte token) (rest : Bytes) :
    Json.token? (byte :: rest) = some (token, rest) := by
  cases mark <;> rfl

/-- Punctuation stands apart from what follows it. -/
theorem lexes_cons (mark : Punctuates byte token) {bytes : Bytes} {tokens : List Token}
    (lexes : Lexes bytes tokens) : Lexes (byte :: bytes) (token :: tokens) := by
  intro rest more after lexed
  change tokens? ([byte] ++ (bytes ++ rest)) = some (token :: (tokens ++ more))
  exact tokens?_of_token? rfl mark.visible (mark.token? _) (lexes rest more after lexed)

end Punctuates

namespace Tree

mutual

/-- The tokens of a tree. -/
def tokens : Tree → List Token
  | .null => [.null]
  | .bool value => [.bool value]
  | .number literal => [.number literal]
  | .string pieces => [.string pieces]
  | .array items => .leftBracket :: itemTokens items
  | .object fields => .leftBrace :: fieldTokens fields

/-- The tokens of the items of an array with its closing bracket. -/
def itemTokens : List Tree → List Token
  | [] => [.rightBracket]
  | [item] => item.tokens ++ [.rightBracket]
  | item :: next :: rest => item.tokens ++ .comma :: itemTokens (next :: rest)

/-- The tokens of the fields of an object with its closing brace. -/
def fieldTokens : List (List Piece × Tree) → List Token
  | [] => [.rightBrace]
  | [(name, value)] => .string name :: .colon :: value.tokens ++ [.rightBrace]
  | (name, value) :: next :: rest =>
    .string name :: .colon :: value.tokens ++ .comma :: fieldTokens (next :: rest)

end

/-- No tree starts with a closing bracket or brace. -/
theorem tokens_eq_cons (tree : Tree) :
    ∃ token rest, tree.tokens = token :: rest ∧ token ≠ .rightBracket ∧ token ≠ .rightBrace := by
  cases tree <;> exact ⟨_, _, rfl, by simp, by simp⟩

theorem read?_leftBracket (fuel : Nat) {token : Token} (other : token ≠ .rightBracket)
    (rest : List Token) :
    read? (fuel + 1) (.leftBracket :: token :: rest) =
      (readItems? fuel (token :: rest)).map fun (items, rest) => (.array items, rest) := by
  rw [read?]
  rintro _ ⟨⟩
  exact other rfl

theorem read?_leftBrace (fuel : Nat) {token : Token} (other : token ≠ .rightBrace)
    (rest : List Token) :
    read? (fuel + 1) (.leftBrace :: token :: rest) =
      (readFields? fuel (token :: rest)).map fun (fields, rest) => (.object fields, rest) := by
  rw [read?]
  rintro _ ⟨⟩
  exact other rfl

theorem itemTokens_eq_cons (item : Tree) (items : List Tree) :
    ∃ token rest, itemTokens (item :: items) = token :: rest ∧ token ≠ .rightBracket := by
  obtain ⟨token, rest, shape, other, -⟩ := tokens_eq_cons item
  cases items with
  | nil => exact ⟨token, rest ++ _, by rw [itemTokens, shape]; rfl, other⟩
  | cons next items => exact ⟨token, rest ++ _, by rw [itemTokens, shape]; rfl, other⟩

theorem fieldTokens_eq_cons (name : List Piece) (value : Tree) (fields : List (List Piece × Tree)) :
    ∃ rest, fieldTokens ((name, value) :: fields) = .string name :: rest := by
  cases fields with
  | nil => exact ⟨_, rfl⟩
  | cons next fields => exact ⟨_, rfl⟩

theorem exists_succ_of_tree (tree : Tree) {fuel : Nat} (enough : 2 * tree.tokens.length ≤ fuel + 1) :
    ∃ less, fuel = less + 1 := by
  obtain ⟨token, rest, shape, -⟩ := tokens_eq_cons tree
  rw [shape, List.length_cons] at enough
  exact ⟨fuel - 1, by omega⟩

mutual

/-- The tokens of a tree are read as the tree, whatever follows them. A tree takes two calls for each
of its tokens but one. -/
theorem read?_tokens : ∀ (tree : Tree) (fuel : Nat), 2 * tree.tokens.length ≤ fuel + 1 →
    ∀ after, read? fuel (tree.tokens ++ after) = some (tree, after)
  | .null, _, enough, _ => by
    obtain ⟨fuel, rfl⟩ := exists_succ_of_tree _ enough
    rfl
  | .bool _, _, enough, _ => by
    obtain ⟨fuel, rfl⟩ := exists_succ_of_tree _ enough
    rfl
  | .number _, _, enough, _ => by
    obtain ⟨fuel, rfl⟩ := exists_succ_of_tree _ enough
    rfl
  | .string _, _, enough, _ => by
    obtain ⟨fuel, rfl⟩ := exists_succ_of_tree _ enough
    rfl
  | .array [], _, enough, _ => by
    obtain ⟨fuel, rfl⟩ := exists_succ_of_tree _ enough
    rfl
  | .array (item :: items), _, enough, after => by
    obtain ⟨fuel, rfl⟩ := exists_succ_of_tree _ enough
    rw [tokens, List.length_cons] at enough
    have read := readItems?_tokens (item :: items) (by simp) fuel (by omega) after
    obtain ⟨token, rest, shape, other⟩ := itemTokens_eq_cons item items
    rw [tokens, List.cons_append, shape, List.cons_append, read?_leftBracket fuel other,
      ← List.cons_append, ← shape, read]
    rfl
  | .object [], _, enough, _ => by
    obtain ⟨fuel, rfl⟩ := exists_succ_of_tree _ enough
    rfl
  | .object ((name, value) :: fields), _, enough, after => by
    obtain ⟨fuel, rfl⟩ := exists_succ_of_tree _ enough
    rw [tokens, List.length_cons] at enough
    have read := readFields?_tokens ((name, value) :: fields) (by simp) fuel (by omega) after
    obtain ⟨rest, shape⟩ := fieldTokens_eq_cons name value fields
    rw [tokens, List.cons_append, shape, List.cons_append, read?_leftBrace fuel (by simp),
      ← List.cons_append, ← shape, read]
    rfl

theorem readItems?_tokens : ∀ (items : List Tree), items ≠ [] → ∀ fuel : Nat,
    2 * (itemTokens items).length ≤ fuel + 2 →
    ∀ after, readItems? fuel (itemTokens items ++ after) = some (items, after)
  | [], nonempty, _, _, _ => absurd rfl nonempty
  | [item], _, fuel, enough, after => by
    rw [itemTokens, List.length_append, List.length_singleton] at enough
    obtain ⟨fuel, rfl⟩ := exists_succ_of_tree item (show _ ≤ fuel + 1 by omega)
    have read := read?_tokens item fuel (by omega) (.rightBracket :: after)
    rw [itemTokens, List.append_assoc, List.singleton_append, readItems?, read]
    rfl
  | item :: next :: rest, _, fuel, enough, after => by
    rw [itemTokens, List.length_append, List.length_cons] at enough
    obtain ⟨fuel, rfl⟩ := exists_succ_of_tree item (show _ ≤ fuel + 1 by omega)
    have read := read?_tokens item fuel (by omega)
      (.comma :: itemTokens (next :: rest) ++ after)
    have later := readItems?_tokens (next :: rest) (by simp) fuel (by
      obtain ⟨token, tokens, shape, -⟩ := tokens_eq_cons item
      rw [shape, List.length_cons] at enough
      omega) after
    rw [itemTokens, List.append_assoc, readItems?, read]
    simp only [Option.bind_eq_bind, Option.bind_some, List.cons_append, later]

theorem readFields?_tokens : ∀ (fields : List (List Piece × Tree)), fields ≠ [] → ∀ fuel : Nat,
    2 * (fieldTokens fields).length ≤ fuel + 2 →
    ∀ after, readFields? fuel (fieldTokens fields ++ after) = some (fields, after)
  | [], nonempty, _, _, _ => absurd rfl nonempty
  | [(name, value)], _, fuel, enough, after => by
    simp only [fieldTokens, List.cons_append, List.length_cons, List.length_append,
      List.length_nil] at enough
    obtain ⟨fuel, rfl⟩ := exists_succ_of_tree value (show _ ≤ fuel + 1 by omega)
    have read := read?_tokens value fuel (by omega) (.rightBrace :: after)
    simp only [fieldTokens, List.append_assoc, List.cons_append, List.nil_append, readFields?, read,
      Option.bind_eq_bind, Option.bind_some]
  | (name, value) :: (other, next) :: rest, _, fuel, enough, after => by
    simp only [fieldTokens, List.cons_append, List.length_cons, List.length_append] at enough
    obtain ⟨fuel, rfl⟩ := exists_succ_of_tree value (show _ ≤ fuel + 1 by omega)
    have read := read?_tokens value fuel (by omega)
      (.comma :: fieldTokens ((other, next) :: rest) ++ after)
    have later := readFields?_tokens ((other, next) :: rest) (by simp) fuel (by omega)
      after
    rw [List.cons_append] at read
    simp only [fieldTokens, List.append_assoc, List.cons_append, readFields?, read, later,
      Option.bind_eq_bind, Option.bind_some]

end

end Tree

/-- Whether a text writes a tree. -/
def Writes (text : String) (tree : Tree) : Prop := Lexes (utf8 text) tree.tokens

/-- A text that writes a tree is read as that tree. -/
theorem Writes.parse? {text : String} {tree : Tree} (writes : Writes text tree) :
    Tree.parse? (utf8 text) = some tree := by
  have lexed : tokens? (utf8 text) = some tree.tokens := by
    have whole := writes [] [] (by rintro _ ⟨⟩) rfl
    rwa [List.append_nil, List.append_nil] at whole
  have read := Tree.read?_tokens tree (2 * tree.tokens.length + 1) (by omega) []
  rw [List.append_nil] at read
  simp only [Tree.parse?, lexed, read, Option.bind_eq_bind, Option.bind_some]

theorem writes_null : Writes "null" .null := by
  have bytes : utf8 "null" = [0x6E, 0x75, 0x6C, 0x6C] := by decide +kernel
  rw [Writes, bytes]
  exact lexes_of_token? rfl rfl fun rest _ => rfl

theorem writes_true : Writes "true" (.bool true) := by
  have bytes : utf8 "true" = [0x74, 0x72, 0x75, 0x65] := by decide +kernel
  rw [Writes, bytes]
  exact lexes_of_token? rfl rfl fun rest _ => rfl

theorem writes_false : Writes "false" (.bool false) := by
  have bytes : utf8 "false" = [0x66, 0x61, 0x6C, 0x73, 0x65] := by decide +kernel
  rw [Writes, bytes]
  exact lexes_of_token? rfl rfl fun rest _ => rfl

theorem writes_quote (text : String) : Writes (quote text) (.string (textPieces text)) := by
  have starts : (utf8 (quote text)).head? = some 0x22 := by
    rw [quote, utf8_ofList, List.cons_append, charBytes_cons_of_ascii (by decide)]
    rfl
  exact lexes_of_token? starts rfl fun rest _ => token?_quote text rest

theorem token?_of_numeric {byte : UInt8} (starts : isDigit byte = true ∨ byte = 0x2D)
    (rest : Bytes) :
    token? (byte :: rest) =
      (number? (byte :: rest)).map fun (literal, rest) => (.number literal, rest) := by
  rw [token?]
  all_goals
    intros
    rename_i same
    cases same <;> exact absurd starts (by decide)

theorem isSpace_of_digit {byte : UInt8} (digit : isDigit byte = true) : isSpace byte = false := by
  cases space : isSpace byte with
  | false => rfl
  | true =>
    simp only [isSpace, Bool.or_eq_true, decide_eq_true_eq] at space
    obtain ((rfl | rfl) | rfl) | rfl := space <;> cases digit

/-- A spelled number is one token. -/
theorem SpellsNumber.lexes {chars : List Char} {literal : Literal}
    (spells : SpellsNumber chars literal) : Lexes (charBytes chars) [.number literal] := by
  obtain ⟨byte, more, shape, starts⟩ := spells.eq_cons
  have visible : isSpace byte = false := by
    obtain digit | rfl := starts
    · exact isSpace_of_digit digit
    · rfl
  refine lexes_of_token? (by rw [shape]; rfl) visible fun rest after => ?_
  have read := number?_of_spells spells after
  rw [shape, List.cons_append] at read ⊢
  rw [token?_of_numeric starts, read]
  rfl

theorem lexes_numeral {numeral : Numeral} (regular : numeral.Regular) (negative : Bool) :
    Lexes (numeral.bytes negative) [.number (numeral.literal negative)] := by
  obtain ⟨chars, spells, shape⟩ := regular.spelled negative
  rw [shape]
  exact spells.lexes

theorem writes_int (value : Int) :
    Writes (toString value)
      (.number ((Numeral.ofNat value.natAbs).literal (decide (value < 0)))) := by
  rw [Writes, utf8_toString]
  exact lexes_numeral (Numeral.regular_ofNat _) _

/-- The literal as which a fraction is written. -/
def floatLiteral (x : Float) : Literal :=
  ((number? (utf8 (Decimal.floatText floatLayout x))).map Prod.fst).getD ⟨false, [], none, none⟩

theorem writes_float (x : Float) :
    Writes (Decimal.floatText floatLayout x) (.number (floatLiteral x)) := by
  obtain ⟨numeral, negative, regular, bytes⟩ := utf8_floatText x
  have read : number? (numeral.bytes negative) = some (numeral.literal negative, []) := by
    obtain ⟨chars, spells, shape⟩ := regular.spelled negative
    have whole := number?_of_spells spells (show Stops isNumeric [] by rintro _ ⟨⟩)
    rwa [List.append_nil, ← shape] at whole
  rw [Writes, floatLiteral, bytes, read]
  exact lexes_numeral regular negative

theorem Punctuates.lexes {byte : UInt8} {token : Token} (mark : Punctuates byte token) :
    Lexes [byte] [token] := mark.lexes_cons lexes_nil

theorem lexes_items (items : List (String × Tree))
    (writes : ∀ item ∈ items, Writes item.1 item.2) :
    Lexes (utf8 (commaSeparated (items.map Prod.fst)) ++ [0x5D])
      (Tree.itemTokens (items.map Prod.snd)) := by
  match items with
  | [] =>
    have empty : utf8 "" = [] := by decide +kernel
    rw [List.map_nil, commaSeparated, empty]
    exact Punctuates.rightBracket.lexes
  | [item] =>
    exact (writes item (by simp)).append Punctuates.rightBracket.lexes
      Punctuates.rightBracket.stops
  | item :: next :: rest =>
    have comma : utf8 "," = [0x2C] := by decide +kernel
    have later := lexes_items (next :: rest) fun other member =>
      writes other (List.mem_cons_of_mem _ member)
    have marked := Punctuates.comma.lexes_cons later
    have all := (writes item (by simp)).append marked Punctuates.comma.stops
    simpa [commaSeparated, comma, Tree.itemTokens] using all

/-- An array whose items are written is written. -/
theorem writes_array (items : List (String × Tree))
    (writes : ∀ item ∈ items, Writes item.1 item.2) :
    Writes (arrayText (items.map Prod.fst)) (.array (items.map Prod.snd)) := by
  have opening : utf8 "[" = [0x5B] := by decide +kernel
  have closing : utf8 "]" = [0x5D] := by decide +kernel
  rw [Writes, arrayText, utf8_append, utf8_append, opening, closing, List.append_assoc]
  exact Punctuates.leftBracket.lexes_cons (lexes_items items writes)

theorem lexes_field (name : String) {text : String} {tree : Tree} (writes : Writes text tree)
    {bytes : Bytes} {tokens : List Token} (after : Lexes bytes tokens)
    (stops : ∀ rest, Stops isNumeric (bytes ++ rest)) :
    Lexes (utf8 (quote name ++ ":" ++ text) ++ bytes)
      (.string (textPieces name) :: .colon :: tree.tokens ++ tokens) := by
  have colon : utf8 ":" = [0x3A] := by decide +kernel
  have value := Punctuates.colon.lexes_cons (writes.append after stops)
  have all := (writes_quote name).append value (Punctuates.colon.stops)
  simpa [colon, Tree.tokens] using all

theorem lexes_fields (fields : List (String × String × Tree))
    (writes : ∀ field ∈ fields, Writes field.2.1 field.2.2) :
    Lexes (utf8 (commaSeparated (fields.map fun field => quote field.1 ++ ":" ++ field.2.1)) ++ [0x7D])
      (Tree.fieldTokens (fields.map fun field => (textPieces field.1, field.2.2))) := by
  match fields with
  | [] =>
    have empty : utf8 "" = [] := by decide +kernel
    rw [List.map_nil, commaSeparated, empty]
    exact Punctuates.rightBrace.lexes
  | [field] =>
    exact lexes_field field.1 (writes field (by simp)) Punctuates.rightBrace.lexes
      Punctuates.rightBrace.stops
  | field :: next :: rest =>
    have comma : utf8 "," = [0x2C] := by decide +kernel
    have later := lexes_fields (next :: rest) fun other member =>
      writes other (List.mem_cons_of_mem _ member)
    have marked := Punctuates.comma.lexes_cons later
    have all := lexes_field field.1 (writes field (by simp)) marked Punctuates.comma.stops
    simpa [commaSeparated, comma, Tree.fieldTokens] using all

/-- An object whose values are written is written. -/
theorem writes_object (fields : List (String × String × Tree))
    (writes : ∀ field ∈ fields, Writes field.2.1 field.2.2) :
    Writes (objectText (fields.map fun field => (field.1, field.2.1)))
      (.object (fields.map fun field => (textPieces field.1, field.2.2))) := by
  have opening : utf8 "\x7b" = [0x7B] := by decide +kernel
  have closing : utf8 "\x7d" = [0x7D] := by decide +kernel
  have lexes := Punctuates.leftBrace.lexes_cons (lexes_fields fields writes)
  simpa [Writes, objectText, opening, closing, Tree.tokens, Function.comp_def] using lexes

mutual

/-- The tree of the text in which a value is printed. -/
def Tree.ofJson : Json → Tree
  | .null => .null
  | .bool value => .bool value
  | .int value => .number ((Numeral.ofNat value.natAbs).literal (decide (value < 0)))
  | .float value => .number (floatLiteral value)
  | .string text => .string (textPieces text)
  | .array items => .array (Tree.ofItems items)
  | .object fields => .object (Tree.ofFields fields)

/-- The trees of a list of values. -/
def Tree.ofItems : List Json → List Tree
  | [] => []
  | item :: rest => Tree.ofJson item :: Tree.ofItems rest

/-- The trees of a list of fields. -/
def Tree.ofFields : List (String × Json) → List (List Piece × Tree)
  | [] => []
  | (name, value) :: rest => (textPieces name, Tree.ofJson value) :: Tree.ofFields rest

end

theorem renderItems_eq_map (items : List Json) : renderItems items = items.map render := by
  induction items with
  | nil => rfl
  | cons item rest ih => rw [renderItems, ih, List.map_cons]

theorem renderFields_eq_map (fields : List (String × Json)) :
    renderFields fields = fields.map fun field => (field.1, render field.2) := by
  induction fields with
  | nil => rfl
  | cons field rest ih => rw [renderFields, ih, List.map_cons]

theorem Tree.ofItems_eq_map (items : List Json) : ofItems items = items.map ofJson := by
  induction items with
  | nil => rfl
  | cons item rest ih => rw [ofItems, ih, List.map_cons]

theorem Tree.ofFields_eq_map (fields : List (String × Json)) :
    ofFields fields = fields.map fun field => (textPieces field.1, ofJson field.2) := by
  induction fields with
  | nil => rfl
  | cons field rest ih => rw [ofFields, ih, List.map_cons]

mutual

/-- Every printed value writes its tree. -/
theorem writes_render : ∀ value : Json, Writes value.render (.ofJson value)
  | .null => writes_null
  | .bool true => writes_true
  | .bool false => writes_false
  | .int value => writes_int value
  | .float value => writes_float value
  | .string text => writes_quote text
  | .array items => by
    have all := writes_array (items.map fun item => (item.render, Tree.ofJson item))
      (List.forall_mem_map.mpr (writes_renderItems items))
    rw [render, Tree.ofJson, renderItems_eq_map, Tree.ofItems_eq_map]
    simpa [Function.comp_def] using all
  | .object fields => by
    have all := writes_object (fields.map fun field => (field.1, field.2.render, Tree.ofJson field.2))
      (List.forall_mem_map.mpr (writes_renderFields fields))
    rw [render, Tree.ofJson, renderFields_eq_map, Tree.ofFields_eq_map]
    simpa [Function.comp_def] using all

theorem writes_renderItems : ∀ items : List Json,
    ∀ item ∈ items, Writes item.render (.ofJson item)
  | [] => by simp
  | first :: rest => List.forall_mem_cons.mpr ⟨writes_render first, writes_renderItems rest⟩

theorem writes_renderFields : ∀ fields : List (String × Json),
    ∀ field ∈ fields, Writes field.2.render (.ofJson field.2)
  | [] => by simp
  | (_, value) :: rest => List.forall_mem_cons.mpr ⟨writes_render value, writes_renderFields rest⟩

end

end Gateway.Json
