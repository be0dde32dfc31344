import Gateway.Proofs.Json.Form
import Gateway.Proofs.Json.Spelling

/-! # The grammar of JSON texts

The grammar derives texts, character by character, from forms. White space may stand around every value,
every name of a field and every mark of punctuation. Whatever the grammar derives is read as the form that
it is derived from.
-/

namespace Gateway.Json

/-- White space. -/
def IsGap (chars : List Char) : Prop :=
  ∀ c ∈ chars, c = ' ' ∨ c = '\t' ∨ c = '\n' ∨ c = '\r'

/-- What a part of a text is a spelling of. -/
inductive Phrase where
  /-- A value. -/
  | value (form : Form)
  /-- A value with white space around it. -/
  | spaced (form : Form)
  /-- The name of a field, its colon and its value. -/
  | member (name : String) (form : Form)
  /-- The items of an array and the commas between them. -/
  | items (items : List Form)
  /-- The fields of an object and the commas between them. -/
  | fields (fields : List (String × Form))

/-- The grammar. -/
inductive Spells : List Char → Phrase → Prop where
  | null : Spells ['n', 'u', 'l', 'l'] (.value .null)
  | true : Spells ['t', 'r', 'u', 'e'] (.value (.bool true))
  | false : Spells ['f', 'a', 'l', 's', 'e'] (.value (.bool false))
  | number {chars : List Char} {literal : Literal} : SpellsNumber chars literal →
      Spells chars (.value (.number literal))
  | string {chars text : List Char} : SpellsText chars text →
      Spells ('"' :: (chars ++ ['"'])) (.value (.string (String.ofList text)))
  | emptyArray {gap : List Char} : IsGap gap → Spells ('[' :: (gap ++ [']'])) (.value (.array []))
  | array {chars : List Char} {items : List Form} : Spells chars (.items items) →
      Spells ('[' :: (chars ++ [']'])) (.value (.array items))
  | emptyObject {gap : List Char} : IsGap gap →
      Spells ('\x7b' :: (gap ++ ['\x7d'])) (.value (.object []))
  | object {chars : List Char} {fields : List (String × Form)} : Spells chars (.fields fields) →
      Spells ('\x7b' :: (chars ++ ['\x7d'])) (.value (.object fields))
  | spaced {before chars after : List Char} {form : Form} : IsGap before →
      Spells chars (.value form) → IsGap after →
      Spells (before ++ (chars ++ after)) (.spaced form)
  | member {before name text after chars : List Char} {form : Form} : IsGap before →
      SpellsText name text → IsGap after → Spells chars (.spaced form) →
      Spells (before ++ '"' :: (name ++ '"' :: (after ++ ':' :: chars)))
        (.member (String.ofList text) form)
  | item {chars : List Char} {form : Form} : Spells chars (.spaced form) →
      Spells chars (.items [form])
  | items {chars rest : List Char} {form : Form} {items : List Form} :
      Spells chars (.spaced form) → Spells rest (.items items) →
      Spells (chars ++ ',' :: rest) (.items (form :: items))
  | field {chars : List Char} {name : String} {form : Form} : Spells chars (.member name form) →
      Spells chars (.fields [(name, form)])
  | fields {chars rest : List Char} {name : String} {form : Form}
      {fields : List (String × Form)} : Spells chars (.member name form) →
      Spells rest (.fields fields) → Spells (chars ++ ',' :: rest) (.fields ((name, form) :: fields))

namespace Tree

mutual

/-- The form of a tree whose strings spell well-formed text. -/
def form? : Tree → Option Form
  | .null => some .null
  | .bool value => some (.bool value)
  | .number literal => some (.number literal)
  | .string pieces => (text? pieces).map .string
  | .array items => (itemForms? items).map .array
  | .object fields => (fieldForms? fields).map .object

/-- The forms of a list of trees. -/
def itemForms? : List Tree → Option (List Form)
  | [] => some []
  | item :: rest => do
    let form ← form? item
    let forms ← itemForms? rest
    some (form :: forms)

/-- The names and forms of a list of fields. -/
def fieldForms? : List (List Piece × Tree) → Option (List (String × Form))
  | [] => some []
  | (name, tree) :: rest => do
    let name ← text? name
    let form ← form? tree
    let forms ← fieldForms? rest
    some ((name, form) :: forms)

end

end Tree

theorem isSpace_of_mem_charBytes {gap : List Char} (blank : IsGap gap) :
    ∀ byte ∈ charBytes gap, isSpace byte = true := by
  induction gap with
  | nil => simp
  | cons c gap ih =>
    obtain ⟨space, blank⟩ := List.forall_mem_cons.mp blank
    have rest := ih blank
    obtain rfl | rfl | rfl | rfl := space <;>
      exact List.forall_mem_cons.mpr ⟨rfl, rest⟩

theorem tokens?_append_of_blank {gap : Bytes} (blank : ∀ byte ∈ gap, isSpace byte = true)
    {rest : Bytes} {tokens : List Token} (lexed : tokens? rest = some tokens) :
    tokens? (gap ++ rest) = some tokens := by
  have longer := tokensWith_mono (show rest.length ≤ (gap ++ rest).length by simp) lexed
  rw [tokens?, ← longer]
  cases fuel : (gap ++ rest).length with
  | zero =>
    obtain rfl : gap = [] := List.eq_nil_of_length_eq_zero (by simp at fuel; simp [fuel])
    rfl
  | succ fuel => rw [tokensWith, tokensWith, List.dropWhile_append_of_pos blank]

/-- White space goes with what stands after it. -/
theorem Lexes.gap_append {bytes : Bytes} {tokens : List Token} (lexes : Lexes bytes tokens)
    {gap : List Char} (blank : IsGap gap) : Lexes (charBytes gap ++ bytes) tokens := by
  intro rest more after lexed
  rw [List.append_assoc]
  exact tokens?_append_of_blank (isSpace_of_mem_charBytes blank) (lexes rest more after lexed)

theorem stops_gap {gap : List Char} (blank : IsGap gap) {rest : Bytes}
    (stops : Stops isNumeric rest) : Stops isNumeric (charBytes gap ++ rest) := by
  cases gap with
  | nil => exact stops
  | cons c gap =>
    obtain ⟨space, -⟩ := List.forall_mem_cons.mp blank
    obtain rfl | rfl | rfl | rfl := space <;> exact stops_cons (by decide) _

/-- White space goes with what stands before it. -/
theorem Lexes.append_gap {bytes : Bytes} {tokens : List Token} (lexes : Lexes bytes tokens)
    {gap : List Char} (blank : IsGap gap) : Lexes (bytes ++ charBytes gap) tokens := by
  intro rest more after lexed
  rw [List.append_assoc]
  exact lexes _ _ (stops_gap blank after)
    (tokens?_append_of_blank (isSpace_of_mem_charBytes blank) lexed)

/-- Whether bytes are the tokens of what they are a spelling of. -/
def Phrase.IsLexed (bytes : Bytes) : Phrase → Prop
  | .value form | .spaced form => ∃ tree : Tree, tree.form? = some form ∧ Lexes bytes tree.tokens
  | .member name form => ∃ (pieces : List Piece) (tree : Tree), text? pieces = some name ∧
      tree.form? = some form ∧ Lexes bytes (.string pieces :: .colon :: tree.tokens)
  | .items forms => ∃ (first : Tree) (rest : List Tree),
      Tree.itemForms? (first :: rest) = some forms ∧
      Lexes (bytes ++ [0x5D]) (Tree.itemTokens (first :: rest))
  | .fields forms => ∃ (first : List Piece × Tree) (rest : List (List Piece × Tree)),
      Tree.fieldForms? (first :: rest) = some forms ∧
      Lexes (bytes ++ [0x7D]) (Tree.fieldTokens (first :: rest))

theorem text?_of_pieceBytes? {pieces : List Piece} {text : List Char}
    (bytes : pieceBytes? pieces = some (charBytes text)) :
    text? pieces = some (String.ofList text) := by
  rw [text?, bytes, ← utf8_ofList]
  exact ofUtf8?_utf8 _

theorem lexes_of_spells_text {chars text : List Char} (spells : SpellsText chars text) :
    ∃ pieces, text? pieces = some (String.ofList text) ∧
      Lexes (charBytes ('"' :: (chars ++ ['"']))) [.string pieces] := by
  obtain ⟨pieces, bytes, read⟩ := string?_of_spells spells
  have mark : UInt8.ofNat '"'.toNat = 0x22 := rfl
  refine ⟨pieces, text?_of_pieceBytes? bytes, ?_⟩
  rw [charBytes_enclosed (by decide) (by decide), mark]
  refine lexes_of_token? rfl rfl fun rest _ => ?_
  rw [List.cons_append, List.append_assoc, List.cons_append, List.nil_append, token?, read]
  rfl

/-- Whatever is spelled is lexed as the tokens of its tree. -/
theorem isLexed_of_spells {chars : List Char} {phrase : Phrase} (spells : Spells chars phrase) :
    phrase.IsLexed (charBytes chars) := by
  have leftBracket : UInt8.ofNat '['.toNat = 0x5B := rfl
  have rightBracket : UInt8.ofNat ']'.toNat = 0x5D := rfl
  have leftBrace : UInt8.ofNat '\x7b'.toNat = 0x7B := rfl
  have rightBrace : UInt8.ofNat '\x7d'.toNat = 0x7D := rfl
  have colon : UInt8.ofNat ':'.toNat = 0x3A := rfl
  have comma : UInt8.ofNat ','.toNat = 0x2C := rfl
  induction spells with
  | null => exact ⟨.null, rfl, lexes_of_token? rfl rfl fun rest _ => rfl⟩
  | true => exact ⟨.bool true, rfl, lexes_of_token? rfl rfl fun rest _ => rfl⟩
  | false => exact ⟨.bool false, rfl, lexes_of_token? rfl rfl fun rest _ => rfl⟩
  | number spells => exact ⟨.number _, rfl, spells.lexes⟩
  | string spells =>
    obtain ⟨pieces, read, lexes⟩ := lexes_of_spells_text spells
    exact ⟨.string pieces, by rw [Tree.form?, read]; rfl, lexes⟩
  | emptyArray blank =>
    refine ⟨.array [], rfl, ?_⟩
    rw [charBytes_enclosed (by decide) (by decide), leftBracket, rightBracket]
    exact Punctuates.leftBracket.lexes_cons
      (Punctuates.rightBracket.lexes.gap_append blank)
  | array _ ih =>
    obtain ⟨first, rest, read, lexes⟩ := ih
    refine ⟨.array (first :: rest), by rw [Tree.form?, read]; rfl, ?_⟩
    rw [charBytes_enclosed (by decide) (by decide), leftBracket, rightBracket]
    exact Punctuates.leftBracket.lexes_cons lexes
  | emptyObject blank =>
    refine ⟨.object [], rfl, ?_⟩
    rw [charBytes_enclosed (by decide) (by decide), leftBrace, rightBrace]
    exact Punctuates.leftBrace.lexes_cons
      (Punctuates.rightBrace.lexes.gap_append blank)
  | object _ ih =>
    obtain ⟨first, rest, read, lexes⟩ := ih
    refine ⟨.object (first :: rest), by rw [Tree.form?, read]; rfl, ?_⟩
    rw [charBytes_enclosed (by decide) (by decide), leftBrace, rightBrace]
    exact Punctuates.leftBrace.lexes_cons lexes
  | spaced before _ after ih =>
    obtain ⟨tree, read, lexes⟩ := ih
    refine ⟨tree, read, ?_⟩
    rw [charBytes_append, charBytes_append]
    exact (lexes.append_gap after).gap_append before
  | member before name after _ ih =>
    obtain ⟨tree, read, lexes⟩ := ih
    obtain ⟨pieces, text, named⟩ := lexes_of_spells_text name
    refine ⟨pieces, tree, text, read, ?_⟩
    have value := (named.append_gap after).append (Punctuates.colon.lexes_cons lexes)
      Punctuates.colon.stops
    have all := value.gap_append before
    simpa [charBytes_append, charBytes_cons_of_ascii, colon] using all
  | item _ ih =>
    obtain ⟨tree, read, lexes⟩ := ih
    refine ⟨tree, [], by simp only [Tree.itemForms?, read, Option.bind_eq_bind, Option.bind_some], ?_⟩
    exact lexes.append Punctuates.rightBracket.lexes Punctuates.rightBracket.stops
  | items _ _ ih later =>
    obtain ⟨tree, read, lexes⟩ := ih
    obtain ⟨first, rest, reads, after⟩ := later
    refine ⟨tree, first :: rest, by rw [Tree.itemForms?, read, reads]; rfl, ?_⟩
    rw [charBytes_append, charBytes_cons_of_ascii (by decide), comma, List.append_assoc,
      List.cons_append]
    exact lexes.append (Punctuates.comma.lexes_cons after) Punctuates.comma.stops
  | field _ ih =>
    obtain ⟨pieces, tree, named, read, lexes⟩ := ih
    refine ⟨(pieces, tree), [], by
      simp only [Tree.fieldForms?, named, read, Option.bind_eq_bind, Option.bind_some], ?_⟩
    exact lexes.append Punctuates.rightBrace.lexes Punctuates.rightBrace.stops
  | fields _ _ ih later =>
    obtain ⟨pieces, tree, named, read, lexes⟩ := ih
    obtain ⟨first, rest, reads, after⟩ := later
    refine ⟨(pieces, tree), first :: rest, by rw [Tree.fieldForms?, named, read, reads]; rfl, ?_⟩
    rw [charBytes_append, charBytes_cons_of_ascii (by decide), comma, List.append_assoc,
      List.cons_append]
    exact lexes.append (Punctuates.comma.lexes_cons after) Punctuates.comma.stops

theorem charBytes_toList (text : String) : charBytes text.toList = utf8 text := by
  rw [← utf8_ofList, String.ofList_toList]

/-- A text that spells a form is read as a tree of that form. -/
theorem parse?_of_spells {text : String} {form : Form} (spells : Spells text.toList (.spaced form)) :
    ∃ tree, Tree.parse? (utf8 text) = some tree ∧ tree.form? = some form := by
  obtain ⟨tree, formed, lexes⟩ := isLexed_of_spells spells
  rw [charBytes_toList] at lexes
  exact ⟨tree, Writes.parse? lexes, formed⟩

end Gateway.Json
