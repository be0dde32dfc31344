import Gateway.Pad.Transform
import Mathlib.Data.List.GetD

/-! # Pads as an exclusive or with an endless key

A key that is used over and over is a stream of bytes, one for each position of the data. Combining
data with it changes each byte on its own (`combine_eq_mapIdx`), so the laws of the transform are those
of the exclusive or of single bytes: a second application undoes the first, and the order of two keys
of whatever lengths does not matter.
-/

namespace Gateway.Pad

/-- The byte that meets the data at `position`, if `unused` is left of the key: first what is left,
then the key from its start, again and again. -/
def streamed (key unused : Bytes) (position : Nat) : UInt8 :=
  unused.getD position (key.getD ((position - unused.length) % key.length) 0)

@[simp] theorem streamed_cons_zero (key rest : Bytes) (first : UInt8) :
    streamed key (first :: rest) 0 = first := rfl

@[simp] theorem streamed_cons_succ (key rest : Bytes) (first : UInt8) (position : Nat) :
    streamed key (first :: rest) (position + 1) = streamed key rest position := by
  simp only [streamed, List.getD_cons_succ, List.length_cons, Nat.add_sub_add_right]

/-- With the whole key left, positions count modulo its length. -/
theorem streamed_self (key : Bytes) (position : Nat) :
    streamed key key position = key.getD (position % key.length) 0 := by
  rcases Nat.lt_or_ge position key.length with inside | beyond
  · rw [streamed, Nat.mod_eq_of_lt inside, List.getD_eq_getElem _ _ inside,
      List.getD_eq_getElem _ _ inside]
  · rw [streamed, List.getD_eq_default _ _ beyond, Nat.mod_eq_sub_mod beyond]

/-- A key of which nothing is left starts again. -/
theorem streamed_nil (key : Bytes) : streamed key [] = streamed key key := by
  funext position
  rw [streamed_self]
  rfl

/-- Each byte meets the byte of the stream at its own position, and no other. -/
theorem combine_eq_mapIdx (key unused data : Bytes) :
    combine key unused data =
      data.mapIdx fun position byte => byte ^^^ streamed key unused position := by
  induction data generalizing unused with
  | nil => cases unused <;> rfl
  | cons byte data ih =>
    cases unused with
    | cons first rest =>
      simp only [combine, ih, List.mapIdx_cons, streamed_cons_zero, streamed_cons_succ]
    | nil =>
      cases key with
      | nil =>
        -- The empty key changes nothing: its stream is made of zeros.
        refine (List.mapIdx_eq_iff.mpr fun position => ?_).symm
        simp [combine, streamed]
      | cons first rest =>
        rw [streamed_nil]
        simp only [combine, ih, List.mapIdx_cons, streamed_cons_zero, streamed_cons_succ]

@[simp] theorem length_combine (key unused data : Bytes) :
    (combine key unused data).length = data.length := by
  rw [combine_eq_mapIdx, List.length_mapIdx]

@[simp] theorem getElem?_combine (key unused data : Bytes) (position : Nat) :
    (combine key unused data)[position]? =
      data[position]?.map (· ^^^ streamed key unused position) := by
  rw [combine_eq_mapIdx, List.getElem?_mapIdx]

theorem combine_combine (key unused data : Bytes) :
    combine key unused (combine key unused data) = data := by
  apply List.ext_getElem?
  intro position
  simp only [getElem?_combine, Option.map_map, Function.comp_def, UInt8.xor_assoc, UInt8.xor_self,
    UInt8.xor_zero, Option.map_id']

/-- Two keys may be combined with data in either order. -/
theorem combine_right_comm (key unused other remaining data : Bytes) :
    combine other remaining (combine key unused data) =
      combine key unused (combine other remaining data) := by
  apply List.ext_getElem?
  intro position
  simp only [getElem?_combine, Option.map_map, Function.comp_def, UInt8.xor_assoc]
  rw [UInt8.xor_comm (streamed key unused position)]

theorem apply_of_ne_nil {key : Bytes} (keyed : key ≠ []) (data : Bytes) :
    apply key data = .ok (combine key key data) := by
  simp [apply, keyed]

theorem apply_eq_error_iff (key data : Bytes) : apply key data = .error .empty ↔ key = [] := by
  cases key <;> simp [apply]

/-- What a pad was applied to comes back when the pad is applied again. -/
theorem apply_apply {key data masked : Bytes} (applied : apply key data = .ok masked) :
    apply key masked = .ok data := by
  have keyed : key ≠ [] := by
    rintro rfl
    cases applied
  obtain rfl := Except.ok.inj ((apply_of_ne_nil keyed data).symm.trans applied)
  rw [apply_of_ne_nil keyed, combine_combine]

/-- The empty key is refused. Any other key, of whatever length, changes each byte of the data by its
own byte at that position modulo its length; it takes its change back when it is applied again, and a
second key may come before or after it. -/
theorem apply_is_cyclic_exclusive_or (key data : Bytes) :
    (apply key data = .error .empty ↔ key = []) ∧
      ∀ keyed : key ≠ [], ∃ masked, apply key data = .ok masked ∧ masked.length = data.length ∧
        (∀ (position : Nat) (inside : position < data.length),
          masked[position]? = some (data[position] ^^^
            key.get ⟨position % key.length,
              Nat.mod_lt position (List.length_pos_iff.mpr keyed)⟩)) ∧
        apply key masked = .ok data ∧
        ∀ other : Bytes, other ≠ [] → ∃ twice,
          (apply key data >>= apply other) = .ok twice ∧
          (apply other data >>= apply key) = .ok twice := by
  refine ⟨apply_eq_error_iff key data, fun keyed => ?_⟩
  have applied : apply key data = .ok (combine key key data) := apply_of_ne_nil keyed data
  refine ⟨combine key key data, applied, length_combine .., ?_, apply_apply applied, ?_⟩
  · intro position inside
    have wraps : position % key.length < key.length :=
      Nat.mod_lt position (List.length_pos_iff.mpr keyed)
    rw [getElem?_combine, streamed_self, List.getElem?_eq_getElem inside,
      List.getD_eq_getElem _ _ wraps]
    rfl
  · intro other usable
    refine ⟨combine other other (combine key key data), ?_, ?_⟩
    · rw [applied]
      exact apply_of_ne_nil usable _
    · rw [apply_of_ne_nil usable, combine_right_comm]
      exact apply_of_ne_nil keyed _

/-- A key of two bytes and one of three, on data that is longer than both. -/
theorem keys_of_two_and_three_bytes_in_either_order :
    ([1, 2] : Bytes) ≠ [] ∧ ([4, 8, 16] : Bytes) ≠ [] ∧
      ∃ masked, apply [1, 2] [0, 0, 0, 0, 255] = .ok masked ∧ masked.length = 5 ∧
        masked[4]? = some 254 ∧ apply [1, 2] masked = .ok [0, 0, 0, 0, 255] ∧
        ∃ twice, (apply [1, 2] [0, 0, 0, 0, 255] >>= apply [4, 8, 16]) = .ok twice ∧
          (apply [4, 8, 16] [0, 0, 0, 0, 255] >>= apply [1, 2]) = .ok twice := by
  obtain ⟨masked, applied, length, bytes, undone, swaps⟩ :=
    (apply_is_cyclic_exclusive_or [1, 2] [0, 0, 0, 0, 255]).2 nofun
  exact ⟨nofun, nofun, masked, applied, length, bytes 4 (by decide), undone,
    swaps [4, 8, 16] nofun⟩

end Gateway.Pad
