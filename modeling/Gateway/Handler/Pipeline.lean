import Gateway.Handler

/-! # Dispatch pipeline

An envelope goes to the handler of its type, and whatever becomes of it there turns into one
response with the envelope's id. A failure nobody recognized and a handler that broke off are
answered alike, with nothing that the handler said.
-/

namespace Gateway

/-- The handlers by the type they serve. -/
structure Pipeline (σ : Type u) where
  handlers : Table String (Handler σ)
  context : Context

namespace Pipeline

/-- Both steps of a handler; the second one only after the first one ended well. -/
def attempt (context : Context) (handler : Handler σ) (envelope : Envelope) (state : σ) :
    Outcome Response × σ :=
  match handler.validate context envelope state with
  | (.done (), state) => handler.process context envelope state
  | (.failed error, state) => (.failed error, state)
  | (.brokeOff message, state) => (.brokeOff message, state)

/-- What the pipeline makes of an envelope before it is answered. -/
def outcome (pipeline : Pipeline σ) (envelope : Envelope) (state : σ) : Outcome Response × σ :=
  match pipeline.handlers.get? envelope.kind with
  | some handler => attempt pipeline.context handler envelope state
  | none =>
    (.failed (pipeline.context.fail ErrorCode.unknownMessage ("no handler for " ++ envelope.kind)
      [.string envelope.kind] []), state)

/-- The response for an outcome, before it has an id. -/
def answer (context : Context) : Outcome Response → Response
  | .done response => response
  | .failed (.refused refusal) => Response.failure refusal.descriptor refusal.payload
  | .failed (.unexpected _) => context.failure ErrorCode.unexpectedError [] []
  | .brokeOff _ => context.failure ErrorCode.unexpectedError [] []

def serve (pipeline : Pipeline σ) (envelope : Envelope) (state : σ) : Response × σ :=
  let (outcome, state) := pipeline.outcome envelope state
  ((answer pipeline.context outcome).withId envelope.id, state)

/-- The response to an envelope that may be missing. -/
def process (pipeline : Pipeline σ) (envelope : Option Envelope) (state : σ) : Response × σ :=
  match envelope with
  | some envelope => pipeline.serve envelope state
  | none => (pipeline.context.failure ErrorCode.noMessage [] [], state)

end Pipeline

end Gateway
