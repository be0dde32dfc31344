import Gateway.Json.Access
import Gateway.Json.Printer
import Gateway.Json.Record
import Gateway.Table

/-! # Error descriptors

A failure is described to a client by a stable code, a template and the parameters for the
template's placeholders `{0}`, `{1}` and so on. A `Describer` resolves a code and parameters to a
descriptor, and a code that no template is known for is described as an unexpected error. `render`
fills the placeholders one index after the other, each in the text that the earlier ones left, so a
parameter's own text may be filled by a later parameter.
-/

namespace Gateway

/-- The stable codes of the gateway's own failures. -/
abbrev ErrorCode := Int32

namespace ErrorCode

/-- A failure that is no recognized condition. -/
def unexpectedError : ErrorCode := 1

/-- A message was empty or absent. -/
def noMessage : ErrorCode := 2

/-- A message had no type. -/
def noType : ErrorCode := 3

/-- A message's type is not known or has no handler. -/
def unknownMessage : ErrorCode := 4

/-- A message's fields are not those of its type. -/
def malformedMessage : ErrorCode := 5

/-- A message's type is not accepted on this transport. -/
def unexpectedMessage : ErrorCode := 6

/-- A pad is empty. -/
def invalidPad : ErrorCode := 7

/-- There is no pad to work with. -/
def noPad : ErrorCode := 8

/-- A channel is not secured by its transport. -/
def notEncrypted : ErrorCode := 9

end ErrorCode

/-- A description of a failure. -/
structure Descriptor where
  code : ErrorCode
  template : String
  parameters : List Json
deriving Inhabited, Repr

namespace Descriptor

/-- A text with every occurrence of `pattern` replaced, from left to right; the first `skip`
characters belong to an occurrence that was replaced already. -/
def replaceAll (pattern replacement : List Char) : Nat → List Char → List Char
  | _, [] => []
  | skip + 1, _ :: rest => replaceAll pattern replacement skip rest
  | 0, c :: rest =>
    if pattern.isPrefixOf (c :: rest) then
      replacement ++ replaceAll pattern replacement (pattern.length - 1) rest
    else c :: replaceAll pattern replacement 0 rest

def placeholder (index : Nat) : List Char := '\x7b' :: Nat.toDigits 10 index ++ ['\x7d']

/-- The text that a parameter fills in: a string as it is, any other value as JSON text. -/
def parameterText : Json → String
  | .string text => text
  | value => value.render

/-- A text with the placeholders from `index` on filled by the given parameters in turn. -/
def fillFrom (index : Nat) : List Json → List Char → List Char
  | [], text => text
  | parameter :: rest, text =>
    fillFrom (index + 1) rest
      (replaceAll (placeholder index) (parameterText parameter).toList 0 text)

/-- The template with its placeholders filled. -/
def render (descriptor : Descriptor) : String :=
  String.ofList (fillFrom 0 descriptor.parameters descriptor.template.toList)

/-- The JSON text of a descriptor. Parameters are left out when there are none. -/
def wire (descriptor : Descriptor) : String :=
  Json.objectText <|
    [("code", toString descriptor.code.toInt), ("template", Json.quote descriptor.template)] ++
      match descriptor.parameters with
      | [] => []
      | parameters => [("parameters", Json.arrayText (Json.renderItems parameters))]

/-- The descriptor written by a tree whose parameters' items nest at most `limit` deep. -/
def ofTree? (limit : Nat) (tree : Json.Tree) : Option Descriptor := do
  let fields ← tree.record? ["code", "template", "parameters"]
  let code ← Json.Tree.required? fields "code"
    (Json.Tree.int? Int32.minValue.toInt Int32.maxValue.toInt)
  let template ← Json.Tree.required? fields "template" Json.Tree.string?
  let parameters ← Json.Tree.optional? fields "parameters" [] (Json.Tree.values? limit)
  some ⟨Int32.ofInt code, template, parameters⟩

/-- The descriptor that a value is. -/
def ofJson? (value : Json) : Option Descriptor := do
  let fields ← value.record? ["code", "template", "parameters"]
  let code ← (Json.findField "code" fields).bind Json.asInt?
  let template ← (Json.findField "template" fields).bind Json.asString?
  let parameters ← (Json.findField "parameters" fields).elim (some []) Json.asArray?
  if Int32.minValue.toInt ≤ code ∧ code ≤ Int32.maxValue.toInt then
    some ⟨Int32.ofInt code, template, parameters⟩
  else none

def parse? (bytes : Bytes) : Option Descriptor :=
  (Json.Tree.parse? bytes).bind (ofTree? (Json.maxDepth - 2))

end Descriptor

/-- Resolves a code and parameters to a descriptor. -/
abbrev Describer := ErrorCode → List Json → Descriptor

structure Templates where
  table : Table ErrorCode String

namespace Templates

/-- A template for each of the gateway's own codes. -/
def builtIn : Templates :=
  ⟨.ofList [
    (ErrorCode.unexpectedError, "An unexpected error has occurred"),
    (ErrorCode.noMessage, "No message"),
    (ErrorCode.noType, "No type specified"),
    (ErrorCode.unknownMessage, "Unrecognized message type \x7b0\x7d"),
    (ErrorCode.malformedMessage, "Malformed \x7b0\x7d message"),
    (ErrorCode.unexpectedMessage, "Message type \x7b0\x7d not allowed here"),
    (ErrorCode.invalidPad, "Invalid OTP key"),
    (ErrorCode.noPad, "No OTP key for \x7b0\x7d"),
    (ErrorCode.notEncrypted, "Not an encrypted channel")]⟩

def insert (templates : Templates) (code : ErrorCode) (template : String) : Templates :=
  ⟨templates.table.insert code template⟩

/-- The descriptor for a code: it keeps the code, and a code without a template has the one for an
unexpected error. -/
def describe (templates : Templates) : Describer := fun code parameters =>
  let template :=
    (templates.table.get? code).or (templates.table.get? ErrorCode.unexpectedError)
  ⟨code, template.getD "", parameters⟩

end Templates

end Gateway
