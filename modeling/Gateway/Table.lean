/-! # Finite tables

A table is a finite map kept as the list of its entries, in the order in which the keys were first
inserted. Uniqueness of keys is part of the type, so a table has as many keys as entries and a
look-up does not depend on that order. The view is `get?`; each operation has one lemma that says
what it does to the view.
-/

namespace Gateway

/-- A finite map from `K` to `V`, with no key listed twice. -/
structure Table (K : Type u) (V : Type v) where
  /-- The entries, oldest key first. -/
  entries : List (K × V)
  /-- No key is listed twice. -/
  nodup : (entries.map Prod.fst).Nodup

namespace Table

variable {K : Type u} {V : Type v}

def empty : Table K V := ⟨[], List.nodup_nil⟩

instance : Inhabited (Table K V) := ⟨empty⟩

/-- The keys, oldest first. -/
def keys (table : Table K V) : List K := table.entries.map Prod.fst

def size (table : Table K V) : Nat := table.entries.length

def isEmpty (table : Table K V) : Bool := table.entries.isEmpty

def filter (keep : K → V → Bool) (table : Table K V) : Table K V where
  entries := table.entries.filter fun entry => keep entry.1 entry.2
  nodup := table.nodup.sublist (List.filter_sublist.map _)

def map (change : V → W) (table : Table K V) : Table K W where
  entries := table.entries.map fun entry => (entry.1, change entry.2)
  nodup := by simpa [List.map_map, Function.comp_def] using table.nodup

variable [DecidableEq K]

def lookup (key : K) : List (K × V) → Option V
  | [] => none
  | (other, value) :: rest => if other = key then some value else lookup key rest

/-- The list with `key` bound to `value`: in place of its old value, else at the end. -/
def assign (key : K) (value : V) : List (K × V) → List (K × V)
  | [] => [(key, value)]
  | (other, old) :: rest =>
    if other = key then (key, value) :: rest else (other, old) :: assign key value rest

theorem mem_keys_assign {key : K} {value : V} {entries : List (K × V)} {x : K} :
    x ∈ (assign key value entries).map Prod.fst ↔ x = key ∨ x ∈ entries.map Prod.fst := by
  induction entries with
  | nil => simp [assign]
  | cons head rest ih =>
    obtain ⟨other, old⟩ := head
    by_cases same : other = key
    · subst same
      simp only [assign, ↓reduceIte, List.map_cons, List.mem_cons]
      exact ⟨Or.inr, fun h => h.elim Or.inl id⟩
    · simp only [assign, same, ↓reduceIte, List.map_cons, List.mem_cons, ih]
      exact ⟨fun h => h.elim (Or.inr ∘ Or.inl) (Or.imp_right Or.inr),
        fun h => h.elim (Or.inr ∘ Or.inl) (Or.imp_right Or.inr)⟩

theorem nodup_keys_assign {key : K} {value : V} {entries : List (K × V)}
    (nodup : (entries.map Prod.fst).Nodup) : ((assign key value entries).map Prod.fst).Nodup := by
  induction entries with
  | nil => simp [assign]
  | cons head rest ih =>
    obtain ⟨other, old⟩ := head
    simp only [List.map_cons, List.nodup_cons] at nodup
    by_cases same : other = key
    · subst same
      simp only [assign, ↓reduceIte, List.map_cons, List.nodup_cons]
      exact nodup
    · simp only [assign, same, ↓reduceIte, List.map_cons, List.nodup_cons, mem_keys_assign,
        false_or]
      exact ⟨nodup.1, ih nodup.2⟩

def get? (table : Table K V) (key : K) : Option V := lookup key table.entries

def contains (table : Table K V) (key : K) : Bool := (table.get? key).isSome

def insert (table : Table K V) (key : K) (value : V) : Table K V where
  entries := assign key value table.entries
  nodup := nodup_keys_assign table.nodup

def erase (table : Table K V) (key : K) : Table K V :=
  table.filter fun other _ => !decide (other = key)

/-- The table with the value of `key`, if it has one, changed by `change`. -/
def modify (table : Table K V) (key : K) (change : V → V) : Table K V where
  entries := table.entries.map fun entry =>
    (entry.1, if entry.1 = key then change entry.2 else entry.2)
  nodup := by simpa [List.map_map, Function.comp_def] using table.nodup

/-- The table of a list of bindings, where a later binding replaces an earlier one. -/
def ofList (bindings : List (K × V)) : Table K V :=
  bindings.foldl (fun table binding => table.insert binding.1 binding.2) empty

@[simp] theorem get?_empty (key : K) : (empty : Table K V).get? key = none := rfl

@[simp] theorem lookup_assign (key other : K) (value : V) (entries : List (K × V)) :
    lookup other (assign key value entries) =
      if key = other then some value else lookup other entries := by
  induction entries with
  | nil => simp [assign, lookup]
  | cons head rest ih =>
    obtain ⟨first, old⟩ := head
    by_cases same : first = key
    · subst same
      by_cases found : first = other <;> simp [assign, lookup, found]
    · by_cases found : first = other
      · subst found
        simp [assign, lookup, same, Ne.symm same]
      · simp [assign, lookup, same, found, ih]

@[simp] theorem get?_insert (table : Table K V) (key other : K) (value : V) :
    (table.insert key value).get? other = if key = other then some value else table.get? other :=
  lookup_assign key other value table.entries

theorem lookup_eq_none {key : K} {entries : List (K × V)} :
    lookup key entries = none ↔ key ∉ entries.map Prod.fst := by
  induction entries with
  | nil => simp [lookup]
  | cons head rest ih =>
    obtain ⟨other, old⟩ := head
    by_cases same : other = key
    · simp [lookup, same]
    · simp only [lookup, same, ↓reduceIte, ih, List.map_cons, List.mem_cons, not_or]
      exact ⟨fun h => ⟨Ne.symm same, h⟩, And.right⟩

theorem lookup_eq_some {key : K} {value : V} {entries : List (K × V)}
    (nodup : (entries.map Prod.fst).Nodup) :
    lookup key entries = some value ↔ (key, value) ∈ entries := by
  induction entries with
  | nil => simp [lookup]
  | cons head rest ih =>
    obtain ⟨other, old⟩ := head
    simp only [List.map_cons, List.nodup_cons] at nodup
    by_cases same : other = key
    · subst same
      simp only [lookup, ↓reduceIte, Option.some.injEq, List.mem_cons, Prod.mk.injEq, true_and]
      refine ⟨fun h => Or.inl h.symm, fun h => h.elim Eq.symm fun member => ?_⟩
      exact absurd (List.mem_map_of_mem (f := Prod.fst) member) nodup.1
    · simp only [lookup, same, ↓reduceIte, ih nodup.2, List.mem_cons, Prod.mk.injEq]
      exact ⟨Or.inr, fun h => h.elim (fun h => absurd h.1.symm same) id⟩

theorem get?_eq_some_iff {table : Table K V} {key : K} {value : V} :
    table.get? key = some value ↔ (key, value) ∈ table.entries := lookup_eq_some table.nodup

theorem get?_eq_none_iff {table : Table K V} {key : K} :
    table.get? key = none ↔ key ∉ table.keys := lookup_eq_none

theorem lookup_filter {keep : K → V → Bool} {key : K} {entries : List (K × V)}
    (nodup : (entries.map Prod.fst).Nodup) :
    lookup key (entries.filter fun entry => keep entry.1 entry.2) =
      (lookup key entries).filter (keep key) := by
  induction entries with
  | nil => simp [lookup]
  | cons head rest ih =>
    obtain ⟨other, old⟩ := head
    simp only [List.map_cons, List.nodup_cons] at nodup
    by_cases same : other = key
    · subst same
      have absent : lookup other rest = none := lookup_eq_none.2 nodup.1
      cases accepted : keep other old with
      | false => simp [lookup, accepted, Option.filter, ih nodup.2, absent]
      | true => simp [lookup, accepted, Option.filter]
    · cases accepted : keep other old with
      | false => simp [lookup, accepted, same, ih nodup.2]
      | true => simp [lookup, accepted, same, ih nodup.2]

@[simp] theorem get?_filter (table : Table K V) (keep : K → V → Bool) (key : K) :
    (table.filter keep).get? key = (table.get? key).filter (keep key) :=
  lookup_filter table.nodup

@[simp] theorem get?_erase (table : Table K V) (key other : K) :
    (table.erase key).get? other = if key = other then none else table.get? other := by
  rw [erase, get?_filter]
  by_cases same : key = other
  · subst same
    cases table.get? key <;> simp [Option.filter]
  · have differs : ¬ other = key := Ne.symm same
    cases table.get? other <;> simp [Option.filter, same, differs]

theorem lookup_map (change : K → V → W) (key : K) (entries : List (K × V)) :
    lookup key (entries.map fun entry => (entry.1, change entry.1 entry.2)) =
      (lookup key entries).map (change key) := by
  induction entries with
  | nil => rfl
  | cons head rest ih =>
    obtain ⟨other, old⟩ := head
    by_cases same : other = key
    · subst same; simp [lookup]
    · simp [lookup, same, ih]

@[simp] theorem get?_modify (table : Table K V) (key other : K) (change : V → V) :
    (table.modify key change).get? other =
      if other = key then (table.get? other).map change else table.get? other := by
  have changed : (table.modify key change).get? other =
      (table.get? other).map fun value => if other = key then change value else value :=
    lookup_map (fun k value => if k = key then change value else value) other table.entries
  rw [changed]
  by_cases same : other = key <;> simp [same]

@[simp] theorem keys_modify (table : Table K V) (key : K) (change : V → V) :
    (table.modify key change).keys = table.keys := by
  simp [keys, modify, List.map_map, Function.comp_def]

theorem contains_eq_true_iff {table : Table K V} {key : K} :
    table.contains key = true ↔ key ∈ table.keys := by
  rw [contains, Option.isSome_iff_ne_none, ne_eq, get?_eq_none_iff, Decidable.not_not]

end Table

end Gateway
