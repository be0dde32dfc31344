import Gateway.Json.Access
import Gateway.Json.Printer
import Gateway.Json.Record

/-! # Registry keys

What connections, sessions and pads are registered under: the identity that the gateway gave to a
client, or a name or a number chosen by a handler. Keys are totally ordered, identities first, then
names by code point, then numbers. A key is written as a structure of its kind and its value; only
an object may write the kind as a case of an enumeration, in an array the kind is a string.
-/

namespace Gateway

structure Identity where
  value : UInt64
deriving DecidableEq, Repr, Inhabited

def Identity.text (id : Identity) : String := "sys-" ++ toString id.value.toNat

/-- A key of a registry. -/
inductive Key where
  | system (id : Identity)
  | name (text : String)
  | number (value : Int64)
deriving DecidableEq, Repr, Inhabited

namespace Key

def text : Key → String
  | .system id => id.text
  | .name text => text
  | .number value => "#" ++ toString value.toInt

/-- Whether the first key is not after the second one. -/
def le : Key → Key → Bool
  | .system a, .system b => a.value.toNat ≤ b.value.toNat
  | .system _, _ => true
  | .name _, .system _ => false
  | .name a, .name b => a ≤ b
  | .name _, .number _ => true
  | .number a, .number b => a.toInt ≤ b.toInt
  | .number _, _ => false

def sort (keys : List Key) : List Key := keys.mergeSort le

/-- A key put into its place in an ordered list without repetitions. -/
def insertOnce (key : Key) : List Key → List Key
  | [] => [key]
  | other :: rest =>
    if key = other then other :: rest
    else if le key other then key :: other :: rest
    else other :: insertOnce key rest

/-- Keys in order, each once. -/
def sortOnce (keys : List Key) : List Key := keys.foldl (fun sorted key => insertOnce key sorted) []

def toJson : Key → Json
  | .system id => .ofFields [("kind", .string "system"), ("value", .int id.value.toNat)]
  | .name text => .ofFields [("kind", .string "name"), ("value", .string text)]
  | .number value => .ofFields [("kind", .string "number"), ("value", .int value.toInt)]

/-- The key of a kind with a value. -/
def ofParts? : String → Json → Option Key
  | "system", .int value =>
    if 0 ≤ value ∧ value < UInt64.size then some (.system ⟨UInt64.ofNat value.toNat⟩) else none
  | "name", .string text => some (.name text)
  | "number", .int value =>
    if Int64.minValue.toInt ≤ value ∧ value ≤ Int64.maxValue.toInt then
      some (.number (Int64.ofInt value))
    else none
  | _, _ => none

/-- The key that a value is. -/
def ofJson? : Json → Option Key
  | .object fields => do
    let kind ← (Json.findField "kind" fields).bind Json.case?
    let value ← Json.findField "value" fields
    ofParts? kind value
  | .array [.string kind, value] => ofParts? kind value
  | _ => none

/-- The key written by a tree, whose fields may not be repeated. -/
def ofTree? : Json.Tree → Option Key
  | .object fields => do
    let fields ← Json.Tree.knownFields? ["kind", "value"] fields
    let kind ← Json.Tree.required? fields "kind" Json.Tree.case?
    let value ← Json.Tree.required? fields "value" (Json.Tree.value? 0)
    ofParts? kind value
  | .array [kind, value] => do
    let kind ← kind.string?
    let value ← value.value? 0
    ofParts? kind value
  | _ => none

def parse? (bytes : Bytes) : Option Key := (Json.Tree.parse? bytes).bind ofTree?

end Key

end Gateway
