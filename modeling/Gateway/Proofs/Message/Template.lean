import Gateway.Message.Descriptor
import Mathlib.Data.List.Basic

/-! # Templates and their placeholders

A text is read in *pieces*: every placeholder in it is a slot, and every other character is plain.
Substitution puts the texts of the parameters into the slots of the template, all at once, so that no
text is looked at again. Rendering fills the placeholders one index after the other, each in the text
that the earlier ones left. A descriptor is *undisturbed* if that text never spells the next placeholder
with plain characters, that is with characters of parameters or with stray ones of the template. Main
statement: a descriptor and its shortenings to the first few parameters render as they are substituted
exactly if the descriptor is undisturbed, and a single parameter or a lack of stray braces of one kind
is enough for that.
-/

namespace Gateway.Descriptor

/-- The characters of a placeholder after the opening brace. -/
def placeholderTail (index : Nat) : List Char := Nat.toDigits 10 index ++ ['\x7d']

theorem placeholder_eq (index : Nat) : placeholder index = '\x7b' :: placeholderTail index := rfl

theorem isDigit_of_mem_toDigits {index : Nat} {c : Char} (member : c ∈ Nat.toDigits 10 index) :
    c.isDigit = true :=
  Nat.isDigit_of_mem_toDigits (by decide) (by decide) member

/-- A placeholder opens once. -/
theorem not_mem_placeholderTail (index : Nat) : '\x7b' ∉ placeholderTail index := by
  intro member
  obtain digit | closing := List.mem_append.mp member
  · exact absurd (isDigit_of_mem_toDigits digit) (by decide)
  · exact absurd closing (by decide)

/-- The index of the placeholder that a text begins with. -/
def slotAt? (text : List Char) : Option Nat :=
  let index := Nat.ofDigitChars 10 (text.tail.takeWhile Char.isDigit) 0
  if (placeholder index).isPrefixOf text then some index else none

theorem slotAt?_eq_some_iff {text : List Char} {index : Nat} :
    slotAt? text = some index ↔ placeholder index <+: text := by
  constructor
  · intro found
    rw [slotAt?, Option.ite_none_right_eq_some] at found
    obtain ⟨begins, found⟩ := found
    cases found
    exact List.isPrefixOf_iff_prefix.mp begins
  · intro begins
    have digits : text.tail.takeWhile Char.isDigit = Nat.toDigits 10 index := by
      obtain ⟨rest, rfl⟩ := begins
      have inner : (placeholder index ++ rest).tail = Nat.toDigits 10 index ++ '\x7d' :: rest := by
        simp [placeholder]
      rw [inner, List.takeWhile_append_of_pos fun c => isDigit_of_mem_toDigits,
        List.takeWhile_cons_of_neg (by decide), List.append_nil]
    rw [slotAt?, digits, Nat.ofDigitChars_ten_toDigits,
      if_pos (List.isPrefixOf_iff_prefix.mpr begins)]

/-- A text begins with one placeholder at most. -/
theorem placeholder_unique {one two : Nat} {text : List Char}
    (first : placeholder one <+: text) (second : placeholder two <+: text) : one = two :=
  Option.some.inj <|
    (slotAt?_eq_some_iff.mpr first).symm.trans (slotAt?_eq_some_iff.mpr second)

/-- A piece of a text: a plain character or the slot of a parameter. -/
inductive Piece where
  | plain (c : Char)
  | slot (index : Nat)
deriving DecidableEq, Repr

/-- A piece as it is written. -/
def Piece.chars : Piece → List Char
  | .plain c => [c]
  | .slot index => placeholder index

/-- The text that is written in pieces. -/
def spell (parts : List Piece) : List Char := parts.flatMap Piece.chars

/-- The pieces of a text; its first `skip` characters belong to a slot that was read already. -/
def pieces : Nat → List Char → List Piece
  | _, [] => []
  | skip + 1, _ :: rest => pieces skip rest
  | 0, c :: rest =>
    match slotAt? (c :: rest) with
    | some index => .slot index :: pieces ((placeholder index).length - 1) rest
    | none => .plain c :: pieces 0 rest

/-- A placeholder written in plain characters. -/
def spelled (index : Nat) : List Piece := (placeholder index).map .plain

section

variable {parts rest : List Piece} {text : List Char} {index skip : Nat} {c : Char}

@[simp]
theorem spell_nil : spell [] = [] := rfl

@[simp]
theorem spell_plain_cons : spell (.plain c :: parts) = c :: spell parts := rfl

@[simp]
theorem spell_slot_cons : spell (.slot index :: parts) = placeholder index ++ spell parts := rfl

@[simp]
theorem spell_append : spell (parts ++ rest) = spell parts ++ spell rest := List.flatMap_append

@[simp]
theorem spell_map_plain : spell (text.map .plain) = text := by
  induction text with
  | nil => rfl
  | cons c text ih => rw [List.map_cons, spell_plain_cons, ih]

@[simp]
theorem spell_spelled : spell (spelled index) = placeholder index := spell_map_plain

theorem spelled_eq :
    spelled index = .plain '\x7b' :: (placeholderTail index).map .plain := rfl

theorem spelled_ne_nil : spelled index ≠ [] := by rw [spelled_eq]; exact List.cons_ne_nil _ _

theorem not_spelled_prefix_slot {slot : Nat} : ¬ spelled index <+: .slot slot :: parts := by
  rw [spelled_eq, List.cons_prefix_cons]
  rintro ⟨same, -⟩
  cases same

/-- What is read in pieces is the text. -/
theorem spell_pieces : spell (pieces skip text) = text.drop skip := by
  fun_induction pieces skip text with
  | case1 => simp
  | case2 skip c rest ih => rw [ih, List.drop_succ_cons]
  | case3 c rest index found ih =>
    have begins := List.prefix_iff_eq_append.mp (slotAt?_eq_some_iff.mp found)
    rw [placeholder_eq, List.length_cons, List.drop_succ_cons] at begins
    rw [spell_slot_cons, ih, placeholder_eq, List.length_cons, Nat.add_sub_cancel, List.drop_zero,
      begins]
  | case4 c rest _ ih => rw [spell_plain_cons, ih, List.drop_zero, List.drop_zero]

/-- In the pieces of a text no placeholder is written in plain characters: it would be a slot. -/
theorem not_spelled_pieces : ¬ spelled index <:+: pieces skip text := by
  fun_induction pieces skip text with
  | case1 => rw [List.infix_nil]; exact spelled_ne_nil
  | case2 _ _ _ ih => exact ih
  | case3 c rest slot found ih =>
    rw [List.infix_cons_iff, not_or]
    exact ⟨not_spelled_prefix_slot, ih⟩
  | case4 c rest missing ih =>
    rw [List.infix_cons_iff, not_or]
    refine ⟨fun begins => ?_, ih⟩
    obtain ⟨tail, written⟩ := begins
    have placed : placeholder index ++ spell tail = c :: rest := by
      rw [← spell_spelled, ← spell_append, written, spell_plain_cons, spell_pieces, List.drop_zero]
    rw [slotAt?_eq_some_iff.mpr ⟨_, placed⟩] at missing
    cases missing

/-- Characters without an opening brace are written by plain pieces alone. -/
theorem plain_of_prefix_spell (braceless : '\x7b' ∉ text) (begins : text <+: spell parts) :
    text.map .plain <+: parts := by
  induction text generalizing parts with
  | nil => exact List.nil_prefix
  | cons c text ih =>
    obtain ⟨other, braceless⟩ := List.ne_and_not_mem_of_not_mem_cons braceless
    cases parts with
    | nil => exact absurd begins (by simp)
    | cons part parts =>
      cases part with
      | plain d =>
        rw [spell_plain_cons, List.cons_prefix_cons] at begins
        rw [begins.1, List.map_cons, List.cons_prefix_cons]
        exact ⟨rfl, ih braceless begins.2⟩
      | slot index =>
        rw [spell_slot_cons, placeholder_eq, List.cons_append, List.cons_prefix_cons] at begins
        exact absurd begins.1.symm other

/-- A placeholder that begins with a plain character is plain throughout. -/
theorem spelled_prefix_of_placeholder (begins : placeholder index <+: spell (.plain c :: parts)) :
    spelled index <+: .plain c :: parts := by
  rw [placeholder_eq, spell_plain_cons, List.cons_prefix_cons] at begins
  rw [spelled_eq, List.cons_prefix_cons, begins.1]
  exact ⟨rfl, plain_of_prefix_spell (not_mem_placeholderTail index) begins.2⟩

end

/-- One text reads as another but for some places: there the one has `inserted` and the other has
`written`. -/
inductive Inserted (inserted written : List Char) : Nat → List Char → List Char → Prop
  | nil : Inserted inserted written 0 [] []
  | keep (common : List Char) {places : Nat} {one two : List Char}
      (rest : Inserted inserted written places one two) :
      Inserted inserted written places (common ++ one) (common ++ two)
  | insert {places : Nat} {one two : List Char} (rest : Inserted inserted written places one two) :
      Inserted inserted written (places + 1) (inserted ++ one) (written ++ two)

namespace Inserted

variable {inserted written one two : List Char} {places : Nat}

theorem length_eq (differ : Inserted inserted written places one two) :
    one.length + places * written.length = two.length + places * inserted.length := by
  induction differ with
  | nil => simp
  | keep common _ ih => simp only [List.length_append]; omega
  | insert _ ih => simp only [List.length_append, Nat.succ_mul]; omega

theorem eq_of_zero (differ : Inserted inserted written places one two) (nowhere : places = 0) :
    one = two := by
  induction differ with
  | nil => rfl
  | keep common _ ih => rw [ih nowhere]
  | insert => cases nowhere

theorem eq_of_same (differ : Inserted written written places one two) : one = two := by
  induction differ with
  | nil => rfl
  | keep common _ ih => rw [ih]
  | insert _ ih => rw [ih]

/-- Texts that agree have the same characters at the places where they might differ. -/
theorem same_of_eq (differ : Inserted inserted written places one two) (somewhere : 0 < places)
    (agree : one = two) : inserted = written := by
  have lengths : inserted.length = written.length := by
    have total := differ.length_eq
    rw [agree] at total
    exact (Nat.eq_of_mul_eq_mul_left somewhere (Nat.add_left_cancel total)).symm
  induction differ with
  | nil => cases somewhere
  | keep common _ ih => exact ih somewhere (List.append_cancel_left agree)
  | insert => exact List.append_inj_left agree lengths

theorem eq_iff (differ : Inserted inserted written places one two) :
    one = two ↔ inserted = written ∨ places = 0 := by
  constructor
  · intro agree
    obtain nowhere | somewhere := Nat.eq_zero_or_pos places
    · exact .inr nowhere
    · exact .inl (differ.same_of_eq somewhere agree)
  · rintro (rfl | nowhere)
    · exact differ.eq_of_same
    · exact differ.eq_of_zero nowhere

end Inserted

/-- A piece with a text in the slots of one parameter. -/
def Piece.fillAt (index : Nat) (text : List Char) : Piece → List Piece
  | .plain c => [.plain c]
  | .slot place => if place = index then text.map .plain else [.slot place]

section

variable {parts : List Piece} {text rest pattern : List Char} {index skip : Nat} {c : Char}

theorem replaceAll_skip :
    replaceAll pattern text skip rest = replaceAll pattern text 0 (rest.drop skip) := by
  induction rest generalizing skip with
  | nil => simp [replaceAll]
  | cons c rest ih =>
    cases skip with
    | zero => rfl
    | succ skip => rw [replaceAll, List.drop_succ_cons, ih]

theorem replaceAll_cons_of_differs (differs : ¬ pattern <+: c :: rest) :
    replaceAll pattern text 0 (c :: rest) = c :: replaceAll pattern text 0 rest := by
  rw [replaceAll, if_neg (by rwa [List.isPrefixOf_iff_prefix])]

/-- A placeholder at the beginning is replaced, and the rest is looked at from there. -/
theorem replaceAll_placeholder_append :
    replaceAll (placeholder index) text 0 (placeholder index ++ rest) =
      text ++ replaceAll (placeholder index) text 0 rest := by
  have begins : (placeholder index).isPrefixOf (placeholder index ++ rest) = true :=
    List.isPrefixOf_iff_prefix.mpr (List.prefix_append _ _)
  rw [placeholder_eq, List.cons_append] at begins ⊢
  rw [replaceAll, if_pos begins, replaceAll_skip, List.length_cons, Nat.add_sub_cancel,
    List.drop_left]

theorem replaceAll_append_of_braceless {kept : List Char} (braceless : '\x7b' ∉ kept) :
    replaceAll (placeholder index) text 0 (kept ++ rest) =
      kept ++ replaceAll (placeholder index) text 0 rest := by
  induction kept with
  | nil => rfl
  | cons c kept ih =>
    obtain ⟨other, braceless⟩ := List.ne_and_not_mem_of_not_mem_cons braceless
    rw [List.cons_append, replaceAll_cons_of_differs, ih braceless, List.cons_append]
    rw [placeholder_eq, List.cons_prefix_cons]
    exact fun begins => other begins.1

/-- Another placeholder is kept as a whole: no second one begins inside. -/
theorem replaceAll_other_append {other : Nat} (different : other ≠ index) :
    replaceAll (placeholder index) text 0 (placeholder other ++ rest) =
      placeholder other ++ replaceAll (placeholder index) text 0 rest := by
  have differs : ¬ placeholder index <+: placeholder other ++ rest := fun begins =>
    different (placeholder_unique (List.prefix_append _ _) begins)
  rw [placeholder_eq other, List.cons_append] at differs ⊢
  rw [replaceAll_cons_of_differs differs,
    replaceAll_append_of_braceless (not_mem_placeholderTail other), List.cons_append]

@[simp]
theorem flatMap_fillAt_map_plain {kept : List Char} :
    (kept.map Piece.plain).flatMap (Piece.fillAt index text) = kept.map .plain := by
  induction kept with
  | nil => rfl
  | cons c kept ih => rw [List.map_cons, List.flatMap_cons, ih]; rfl

/-- Filling a placeholder in a written text differs from filling its slots at the places where plain
characters spell the placeholder: the text is inserted there as well. -/
theorem inserted_replaceAll (index : Nat) (text : List Char) (parts : List Piece) :
    ∃ places, (0 < places ↔ spelled index <:+: parts) ∧
      Inserted text (placeholder index) places
        (replaceAll (placeholder index) text 0 (spell parts))
        (spell (parts.flatMap (Piece.fillAt index text))) := by
  -- A placeholder in plain characters is passed over whole, hence the recursion on the length.
  match parts with
  | [] => exact ⟨0, by simp [spelled_ne_nil], .nil⟩
  | .slot slot :: parts =>
    obtain ⟨places, counted, rest⟩ := inserted_replaceAll index text parts
    refine ⟨places, ?_, ?_⟩
    · rw [counted, List.infix_cons_iff, or_iff_right not_spelled_prefix_slot]
    · rw [spell_slot_cons, List.flatMap_cons, spell_append, Piece.fillAt]
      split_ifs with same
      · rw [same, replaceAll_placeholder_append, spell_map_plain]
        exact .keep text rest
      · rw [replaceAll_other_append same, spell_slot_cons, spell_nil, List.append_nil]
        exact .keep (placeholder slot) rest
  | .plain c :: parts =>
    by_cases begins : spelled index <+: .plain c :: parts
    · obtain ⟨after, written⟩ := begins
      have shorter : after.length < parts.length + 1 := by
        rw [← List.length_cons, ← written, List.length_append]
        exact Nat.lt_add_of_pos_left (List.length_pos_of_ne_nil spelled_ne_nil)
      obtain ⟨places, -, rest⟩ := inserted_replaceAll index text after
      refine ⟨places + 1, ?_, ?_⟩
      · exact iff_of_true (Nat.succ_pos places) (List.IsPrefix.isInfix ⟨after, written⟩)
      · rw [← written, spell_append, spell_spelled, replaceAll_placeholder_append,
          List.flatMap_append, spell_append, spelled, flatMap_fillAt_map_plain, spell_map_plain]
        exact .insert rest
    · obtain ⟨places, counted, rest⟩ := inserted_replaceAll index text parts
      refine ⟨places, ?_, ?_⟩
      · rw [counted, List.infix_cons_iff, or_iff_right begins]
      · rw [spell_plain_cons, replaceAll_cons_of_differs, List.flatMap_cons, spell_append]
        · exact Inserted.keep [c] rest
        · exact fun placed => begins (spelled_prefix_of_placeholder placed)
termination_by parts.length
decreasing_by
  · exact Nat.lt_succ_self _
  · exact shorter
  · exact Nat.lt_succ_self _

/-- Filling a placeholder in a written text fills its slots and nothing else, unless plain characters
spell the placeholder; then it does so only if it is filled by itself. -/
theorem replaceAll_spell_eq_iff :
    replaceAll (placeholder index) text 0 (spell parts) =
        spell (parts.flatMap (Piece.fillAt index text)) ↔
      text = placeholder index ∨ ¬ spelled index <:+: parts := by
  obtain ⟨places, counted, differ⟩ := inserted_replaceAll index text parts
  rw [differ.eq_iff, ← counted, Nat.not_lt, Nat.le_zero]

end

/-- A piece with each text in the slots of its parameter. -/
def Piece.fill (texts : List (List Char)) : Piece → List Piece
  | .plain c => [.plain c]
  | .slot index =>
    match texts[index]? with
    | some text => text.map .plain
    | none => [.slot index]

theorem Piece.fill_take_succ {texts : List (List Char)} {index : Nat} {text : List Char}
    (found : texts[index]? = some text) (part : Piece) :
    part.fill (texts.take (index + 1)) =
      (part.fill (texts.take index)).flatMap (Piece.fillAt index text) := by
  cases part with
  | plain c => rfl
  | slot place =>
    obtain earlier | rfl | later := Nat.lt_trichotomy place index
    · have same : (texts.take (index + 1))[place]? = (texts.take index)[place]? := by
        rw [List.getElem?_take_of_lt earlier, List.getElem?_take_of_lt (Nat.lt_succ_of_lt earlier)]
      rw [fill, fill, same]
      cases (texts.take index)[place]? with
      | none => simp [fillAt, Nat.ne_of_lt earlier]
      | some kept => exact flatMap_fillAt_map_plain.symm
    · rw [fill, fill, List.getElem?_take_of_lt (Nat.lt_succ_self place), found,
        List.getElem?_take_eq_none (Nat.le_refl place)]
      simp [fillAt]
    · rw [fill, fill, List.getElem?_take_eq_none later,
        List.getElem?_take_eq_none (Nat.le_of_lt later)]
      simp [fillAt, Nat.ne_of_gt later]

/-- The texts of the parameters. -/
def texts (descriptor : Descriptor) : List (List Char) :=
  descriptor.parameters.map fun parameter => (parameterText parameter).toList

/-- The pieces of the template. -/
def parts (descriptor : Descriptor) : List Piece := pieces 0 descriptor.template.toList

/-- The pieces of the template with the texts of the parameters in their slots. -/
def filled (descriptor : Descriptor) : List Piece :=
  descriptor.parts.flatMap (Piece.fill descriptor.texts)

/-- The template with the texts of the parameters put in place of their placeholders, all at once. -/
def substituted (descriptor : Descriptor) : String := String.ofList (spell descriptor.filled)

/-- A descriptor with its first parameters alone. -/
def withFirst (descriptor : Descriptor) (count : Nat) : Descriptor :=
  { descriptor with parameters := descriptor.parameters.take count }

/-- No placeholder that is about to be filled is spelled by plain characters, be they inserted before
or stray ones of the template, unless it is filled by itself. -/
def Undisturbed (descriptor : Descriptor) : Prop :=
  ∀ index text, descriptor.texts[index]? = some text →
    text = placeholder index ∨ ¬ spelled index <:+: (descriptor.withFirst index).filled

section

variable {descriptor : Descriptor} {index : Nat} {text : List Char}

theorem texts_withFirst (descriptor : Descriptor) (count : Nat) :
    (descriptor.withFirst count).texts = descriptor.texts.take count := List.map_take

theorem withFirst_of_length_le {count : Nat} (enough : descriptor.parameters.length ≤ count) :
    descriptor.withFirst count = descriptor := by
  rw [withFirst, List.take_of_length_le enough]

theorem filled_withFirst_zero (descriptor : Descriptor) :
    (descriptor.withFirst 0).filled = descriptor.parts := by
  have unfilled : Piece.fill [] = fun part => [part] := by
    funext part
    cases part <;> rfl
  rw [filled, texts_withFirst, List.take_zero, unfilled]
  exact List.flatMap_singleton' _

theorem filled_withFirst_succ (found : descriptor.texts[index]? = some text) :
    (descriptor.withFirst (index + 1)).filled =
      (descriptor.withFirst index).filled.flatMap (Piece.fillAt index text) := by
  rw [filled, filled, texts_withFirst, texts_withFirst, List.flatMap_assoc]
  exact List.flatMap_congr fun part _ => Piece.fill_take_succ found part

theorem fillFrom_concat (start : Nat) (parameters : List Json) (last : Json) (text : List Char) :
    fillFrom start (parameters ++ [last]) text =
      replaceAll (placeholder (start + parameters.length)) (parameterText last).toList 0
        (fillFrom start parameters text) := by
  induction parameters generalizing start text with
  | nil => rfl
  | cons parameter parameters ih =>
    rw [List.cons_append, fillFrom, ih, fillFrom, List.length_cons, Nat.succ_add_eq_add_succ]

theorem render_withFirst_succ (found : descriptor.texts[index]? = some text) :
    (descriptor.withFirst (index + 1)).render.toList =
      replaceAll (placeholder index) text 0 (descriptor.withFirst index).render.toList := by
  rw [texts, List.getElem?_map, Option.map_eq_some_iff] at found
  obtain ⟨parameter, found, rfl⟩ := found
  obtain ⟨inside, -⟩ := List.getElem?_eq_some_iff.mp found
  have taken : (descriptor.parameters.take index).length = index :=
    List.length_take_of_le (Nat.le_of_lt inside)
  simp only [render, withFirst, String.toList_ofList]
  rw [List.take_add_one, found, Option.toList_some, fillFrom_concat, taken, Nat.zero_add]

/-- While the text so far is the substituted one, filling the next placeholder keeps it so exactly if
nothing but the template's slots is filled. -/
theorem render_withFirst_succ_eq_iff (found : descriptor.texts[index]? = some text)
    (agree : (descriptor.withFirst index).render = (descriptor.withFirst index).substituted) :
    (descriptor.withFirst (index + 1)).render = (descriptor.withFirst (index + 1)).substituted ↔
      text = placeholder index ∨ ¬ spelled index <:+: (descriptor.withFirst index).filled := by
  rw [← String.toList_inj, render_withFirst_succ found, agree, substituted, substituted,
    String.toList_ofList, String.toList_ofList, filled_withFirst_succ found, replaceAll_spell_eq_iff]

theorem render_withFirst_zero (descriptor : Descriptor) :
    (descriptor.withFirst 0).render = (descriptor.withFirst 0).substituted := by
  rw [substituted, filled_withFirst_zero, parts, spell_pieces, List.drop_zero]
  rfl

/-- Every shortening renders as it is substituted exactly if nothing is disturbed. -/
theorem undisturbed_iff :
    descriptor.Undisturbed ↔
      ∀ count, (descriptor.withFirst count).render = (descriptor.withFirst count).substituted := by
  constructor
  · intro undisturbed count
    induction count with
    | zero => exact render_withFirst_zero descriptor
    | succ index ih =>
      cases found : descriptor.texts[index]? with
      | some text => exact (render_withFirst_succ_eq_iff found ih).mpr (undisturbed index text found)
      | none =>
        have beyond : descriptor.parameters.length ≤ index := by
          simpa [texts] using List.getElem?_eq_none_iff.mp found
        rw [withFirst_of_length_le (Nat.le_succ_of_le beyond)]
        rwa [withFirst_of_length_le beyond] at ih
  · intro agree index text found
    exact (render_withFirst_succ_eq_iff found (agree index)).mp (agree (index + 1))

/-- A single parameter is not disturbed: nothing was inserted before it. -/
theorem undisturbed_of_length_le_one (single : descriptor.parameters.length ≤ 1) :
    descriptor.Undisturbed := by
  intro index text found
  obtain ⟨inside, -⟩ := List.getElem?_eq_some_iff.mp found
  have first : index = 0 := by
    rw [texts, List.length_map] at inside
    omega
  rw [first, filled_withFirst_zero]
  exact .inr not_spelled_pieces

/-- A plain character of the filled template comes from the template or from a parameter. -/
theorem plain_mem_filled {c : Char} (member : .plain c ∈ descriptor.filled) :
    .plain c ∈ descriptor.parts ∨ ∃ text ∈ descriptor.texts, c ∈ text := by
  obtain ⟨part, among, member⟩ := List.mem_flatMap.mp member
  cases part with
  | plain d =>
    cases List.mem_singleton.mp member
    exact .inl among
  | slot index =>
    rw [Piece.fill] at member
    cases found : descriptor.texts[index]? with
    | none => simp [found] at member
    | some text =>
      rw [found] at member
      obtain ⟨d, inside, same⟩ := List.mem_map.mp member
      cases same
      exact .inr ⟨text, List.mem_of_getElem? found, inside⟩

/-- Without a stray brace of one kind, in the template or in a parameter but the last, nothing is
disturbed. -/
theorem undisturbed_of_braceless {brace : Char} (kind : brace = '\x7b' ∨ brace = '\x7d')
    (template : .plain brace ∉ descriptor.parts)
    (parameters : ∀ text ∈ descriptor.texts.dropLast, brace ∉ text) : descriptor.Undisturbed := by
  intro index text found
  refine .inr fun spelt => ?_
  have written : Piece.plain brace ∈ spelled index := by
    refine List.mem_map_of_mem ?_
    obtain rfl | rfl := kind <;> simp [placeholder]
  obtain stray | ⟨earlier, among, inside⟩ := plain_mem_filled (spelt.subset written)
  · exact template stray
  · refine parameters earlier ?_ inside
    obtain ⟨bound, -⟩ := List.getElem?_eq_some_iff.mp found
    rw [texts_withFirst] at among
    rw [List.dropLast_eq_take]
    exact List.take_subset_take_left _ (Nat.le_sub_one_of_lt bound) among

end

/-- The pieces of a template spell it, and every placeholder in it is a slot. A descriptor and its
shortenings render as they are substituted exactly if the descriptor is undisturbed; then so does the
descriptor. With one parameter or none it is undisturbed, and so it is where braces of one kind occur
neither astray in the template nor in a parameter but the last. -/
theorem rendering_substitutes_at_once_iff_undisturbed (descriptor : Descriptor) :
    (spell descriptor.parts = descriptor.template.toList ∧
      ∀ index, ¬ spelled index <:+: descriptor.parts) ∧
    ((∀ count, (descriptor.withFirst count).render = (descriptor.withFirst count).substituted) ↔
      descriptor.Undisturbed) ∧
    (descriptor.Undisturbed → descriptor.render = descriptor.substituted) ∧
    (descriptor.parameters.length ≤ 1 → descriptor.Undisturbed) ∧
    ∀ brace ∈ ['\x7b', '\x7d'], .plain brace ∉ descriptor.parts →
      (∀ text ∈ descriptor.texts.dropLast, brace ∉ text) → descriptor.Undisturbed := by
  refine ⟨⟨spell_pieces, fun index => not_spelled_pieces⟩, undisturbed_iff.symm,
    fun undisturbed => ?_, undisturbed_of_length_le_one, ?_⟩
  · have agree := undisturbed_iff.mp undisturbed descriptor.parameters.length
    rwa [withFirst_of_length_le (Nat.le_refl _)] at agree
  · intro brace kind
    exact undisturbed_of_braceless (by simpa using kind)

/-- The text of a parameter is filled by the next one, and so is a placeholder that it makes up with
stray braces of the template. -/
theorem inserted_placeholder_filled_again :
    let first : Descriptor := ⟨100, "\x7b0\x7d", [.string "\x7b1\x7d", .string "x"]⟩
    let second : Descriptor := ⟨100, "\x7b\x7b0\x7d\x7d", [.string "1", .string "x"]⟩
    (first.render = "x" ∧ first.substituted = "\x7b1\x7d") ∧
    second.render = "x" ∧ second.substituted = "\x7b1\x7d" := by
  decide +kernel

end Gateway.Descriptor
