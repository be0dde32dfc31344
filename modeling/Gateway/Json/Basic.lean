/-! # JSON values

A value as a program holds it, apart from any spelling. A whole number and a fraction are different
values even when they are numerically equal. The fields of an object are held in the order of their
names; `setField` keeps that order, and a field set twice holds its last value. Names compare by
code point, which is the order of their UTF-8 bytes.
-/

namespace Gateway

/-- A JSON value. -/
inductive Json where
  | null
  | bool (value : Bool)
  | int (value : Int)
  | float (value : Float)
  | string (text : String)
  | array (items : List Json)
  | object (fields : List (String × Json))
deriving Inhabited, Repr

namespace Json

mutual

/-- Equality of values. Two fractions are equal as numbers, so zero equals negative zero. -/
def equal : Json → Json → Bool
  | .null, .null => true
  | .bool a, .bool b => a == b
  | .int a, .int b => a == b
  | .float a, .float b => a == b
  | .string a, .string b => a == b
  | .array a, .array b => equalItems a b
  | .object a, .object b => equalFields a b
  | _, _ => false

def equalItems : List Json → List Json → Bool
  | [], [] => true
  | a :: as, b :: bs => equal a b && equalItems as bs
  | _, _ => false

def equalFields : List (String × Json) → List (String × Json) → Bool
  | [], [] => true
  | (name, a) :: as, (other, b) :: bs => name == other && equal a b && equalFields as bs
  | _, _ => false

end

instance : BEq Json := ⟨equal⟩

/-- The fields with `name` set to `value`, in the order of names. -/
def setField (name : String) (value : Json) : List (String × Json) → List (String × Json)
  | [] => [(name, value)]
  | (other, old) :: rest =>
    if name = other then (name, value) :: rest
    else if name < other then (name, value) :: (other, old) :: rest
    else (other, old) :: setField name value rest

def dropField (name : String) (fields : List (String × Json)) : List (String × Json) :=
  fields.filter fun field => !decide (field.1 = name)

/-- The fields of a list of assignments, where a later one replaces an earlier one. -/
def sortFields (assignments : List (String × Json)) : List (String × Json) :=
  assignments.foldl (fun fields field => setField field.1 field.2 fields) []

def ofFields (assignments : List (String × Json)) : Json := .object (sortFields assignments)

def findField (name : String) : List (String × Json) → Option Json
  | [] => none
  | (other, value) :: rest => if other = name then some value else findField name rest

def field? (name : String) : Json → Option Json
  | .object fields => findField name fields
  | _ => none

@[simp] theorem findField_setField (name other : String) (value : Json)
    (fields : List (String × Json)) :
    findField other (setField name value fields) =
      if name = other then some value else findField other fields := by
  induction fields with
  | nil => simp [setField, findField]
  | cons head rest ih =>
    obtain ⟨first, old⟩ := head
    simp only [setField]
    split
    · rename_i same
      subst same
      by_cases found : name = other <;> simp [findField, found]
    · rename_i differs
      split
      · by_cases found : name = other <;> simp [findField, found]
      · by_cases found : first = other
        · subst found
          simp [findField, differs]
        · simp [findField, found, ih]

@[simp] theorem findField_dropField (name other : String) (fields : List (String × Json)) :
    findField other (dropField name fields) =
      if name = other then none else findField other fields := by
  induction fields with
  | nil => simp [dropField, findField]
  | cons head rest ih =>
    obtain ⟨first, value⟩ := head
    rw [dropField] at ih ⊢
    by_cases same : first = name
    · subst same
      by_cases found : first = other <;> simp_all [findField]
    · by_cases found : first = other
      · subst found
        simp [findField, same, Ne.symm same]
      · simp [findField, same, found, ih]

end Json

end Gateway
