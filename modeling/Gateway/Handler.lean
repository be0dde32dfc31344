import Gateway.Message.Envelope
import Gateway.Message.Response

/-! # Message handlers

A handler serves one type of message in two steps: `validate` checks what has to hold beforehand,
`process` does the work. Both see the envelope and may change a state. A step ends with a result,
with a recognized failure whose descriptor is ready for the client, with a failure that nobody
recognized, or by breaking off.
-/

namespace Gateway

/-- A recognized failure. -/
structure Refusal where
  /-- What happened, for the gateway's side only. -/
  message : String
  /-- What the client is told. -/
  descriptor : Descriptor
  /-- The payload of the failure response. -/
  payload : List Json
deriving Inhabited, Repr

/-- A failure that a handler reports. -/
inductive Fault where
  | refused (refusal : Refusal)
  /-- A failure nobody recognized, with the contexts it passed through, outermost first. -/
  | unexpected (chain : List String)
deriving Inhabited, Repr

def Fault.message : Fault → String
  | .refused refusal => "Domain error: " ++ refusal.message
  | .unexpected chain => "Unexpected error: " ++ ": ".intercalate chain

/-- How a step of a handler ended. -/
inductive Outcome (α : Type u) where
  | done (result : α)
  | failed (error : Fault)
  /-- The step broke off, with a message if it left one. -/
  | brokeOff (message : Option String)
deriving Inhabited, Repr

def Outcome.map (change : α → β) : Outcome α → Outcome β
  | .done result => .done (change result)
  | .failed error => .failed error
  | .brokeOff message => .brokeOff message

/-- What a handler has at hand. -/
structure Context where
  describe : Describer

namespace Context

/-- A recognized failure with a payload. -/
def fail (context : Context) (code : ErrorCode) (message : String)
    (parameters payload : List Json) : Fault :=
  .refused ⟨message, context.describe code parameters, payload⟩

/-- A failure without parameters unless the condition holds. -/
def ensure (context : Context) (condition : Bool) (code : ErrorCode) (message : String) :
    Outcome Unit :=
  if condition then .done () else .failed (context.fail code message [] [])

/-- A failure response, without failing. -/
def failure (context : Context) (code : ErrorCode) (parameters payload : List Json) : Response :=
  Response.failure (context.describe code parameters) payload

end Context

/-- What serves one type of message over a state. -/
structure Handler (σ : Type u) where
  validate : Context → Envelope → σ → Outcome Unit × σ
  process : Context → Envelope → σ → Outcome Response × σ

/-- The handler that works on a part of a larger state and leaves the rest alone. -/
def Handler.onPart (handler : Handler τ) (part : σ → τ) (replace : σ → τ → σ) : Handler σ where
  validate := fun context envelope state =>
    let (outcome, changed) := handler.validate context envelope (part state)
    (outcome, replace state changed)
  process := fun context envelope state =>
    let (outcome, changed) := handler.process context envelope (part state)
    (outcome, replace state changed)

end Gateway
