import Gateway.Proofs.Dispatch.Account

/-! # Discretion

What went wrong in a handler is the gateway's own business. Of a refusal the client gets the description
and the payload, and never the message. Of everything else that goes wrong, in either step and with
whatever words, it learns that something did: one and the same response, made of nothing but the id of
the message, the identity of the session and the description of an unexpected error.
-/

namespace Gateway

namespace Handler

variable {σ : Type u}

/-- A handler fails in a way that nobody recognizes or breaks off, in its first step or in its second
one, and leaves a state behind. -/
inductive Founders (handler : Handler σ) (context : Context) (envelope : Envelope) (state : σ) :
    σ → Prop where
  | validating {after : σ} (chain : List String)
      (validated : handler.validate context envelope state = (.failed (.unexpected chain), after)) :
      Founders handler context envelope state after
  | brokeOffValidating {after : σ} (message : Option String)
      (validated : handler.validate context envelope state = (.brokeOff message, after)) :
      Founders handler context envelope state after
  | processing {valid after : σ} (chain : List String)
      (validated : handler.validate context envelope state = (.done (), valid))
      (processed : handler.process context envelope valid = (.failed (.unexpected chain), after)) :
      Founders handler context envelope state after
  | brokeOffProcessing {valid after : σ} (message : Option String)
      (validated : handler.validate context envelope state = (.done (), valid))
      (processed : handler.process context envelope valid = (.brokeOff message, after)) :
      Founders handler context envelope state after

/-- A handler refuses an envelope in one of its steps and leaves a state behind. -/
inductive Refuses (handler : Handler σ) (context : Context) (envelope : Envelope) (state : σ)
    (refusal : Refusal) : σ → Prop where
  | validating {after : σ}
      (validated : handler.validate context envelope state = (.failed (.refused refusal), after)) :
      Refuses handler context envelope state refusal after
  | processing {valid after : σ}
      (validated : handler.validate context envelope state = (.done (), valid))
      (processed : handler.process context envelope valid = (.failed (.refused refusal), after)) :
      Refuses handler context envelope state refusal after

/-- What both steps of a handler come to for the client, and the state that they leave behind. -/
def Answers (handler : Handler σ) (context : Context) (envelope : Envelope) (state : σ)
    (response : Response) (after : σ) : Prop :=
  Pipeline.answer context (Pipeline.attempt context handler envelope state).1 = response ∧
    (Pipeline.attempt context handler envelope state).2 = after

variable {handler : Handler σ} {context : Context} {envelope : Envelope} {state after : σ}

/-- Whichever step founders, and in whichever way, there is one answer. -/
theorem Founders.answers (founders : handler.Founders context envelope state after) :
    handler.Answers context envelope state
      (Response.failure (context.describe ErrorCode.unexpectedError []) []) after := by
  cases founders with
  | validating chain validated | brokeOffValidating message validated =>
    simp only [Answers, Pipeline.attempt, validated, and_true]
    rfl
  | processing chain validated processed | brokeOffProcessing message validated processed =>
    simp only [Answers, Pipeline.attempt, validated, processed, and_true]
    rfl

theorem Refuses.answers {refusal : Refusal}
    (refuses : handler.Refuses context envelope state refusal after) :
    handler.Answers context envelope state
      (Response.failure refusal.descriptor refusal.payload) after := by
  cases refuses with
  | validating validated =>
    simp only [Answers, Pipeline.attempt, validated, and_true]
    rfl
  | processing validated processed =>
    simp only [Answers, Pipeline.attempt, validated, processed, and_true]
    rfl

end Handler

namespace Dispatcher

variable {S : Type u} {H : Type v} {σ : Type w}

/-- The dispatcher with handlers that may depend on the directory. -/
def serving (dispatcher : Dispatcher S H σ) (context : Context)
    (handlers : Directory S H → Table String (Handler σ)) : Dispatcher S H σ :=
  { dispatcher with serve := fun directory => (Pipeline.mk (handlers directory) context).serve }

/-- A handler's answer is what the services answer. -/
theorem serve_serving (dispatcher : Dispatcher S H σ) {context : Context}
    {handlers : Directory S H → Table String (Handler σ)} {directory : Directory S H}
    {envelope : Envelope} {handler : Handler σ} {rest after : σ} {response : Response}
    (answers : handler.Answers context envelope rest response after)
    (found : (handlers directory).get? envelope.kind = some handler) :
    (dispatcher.serving context handlers).serve directory envelope rest =
      (response.withId envelope.id, after) := by
  obtain ⟨rfl, rfl⟩ := answers
  simp only [serving, Pipeline.serve, Pipeline.outcome, found]

variable [DecidableEq S] {dispatcher : Dispatcher S H σ} (now : Nat) (session : S) (handle : H)
  (addresses : Addresses) {bytes : Bytes} {state : DispatchState S H σ}

/-- A failure is addressed to its session and counted. It names no keys, so the directory stays as it is
once the session is identified. -/
theorem dispatch_of_failure {descriptor : Descriptor} {payload : List Json} {id : Int64} {after : σ}
    (answered : dispatcher.answered now session handle addresses bytes state =
      ((Response.failure descriptor payload).withId id, after)) :
    let arrived := identify state now session handle
    dispatcher.dispatch now session handle addresses bytes state =
      ((Response.failure descriptor payload).addressed id arrived.1,
        ⟨arrived.2.directory,
          (arrived.2.commons.count (messageCounter dispatcher.transport)).count
            (failureCounter dispatcher.transport), after⟩) := by
  have answered : dispatcher.answer (identify state now session handle).2.commons.pool
      (identify state now session handle).2.directory (identify state now session handle).1 addresses
      bytes (identify state now session handle).2.rest =
        ((Response.failure descriptor payload).withId id, after) := answered
  simp only [dispatch, Commons.count, answered]
  rfl

theorem pool_identify (state : DispatchState S H σ) :
    (identify state now session handle).2.commons.pool = state.commons.pool := by
  obtain ⟨mint, commons⟩ := commons_identify state now session handle
  rw [commons]

/-- What a handler is asked, it answers. -/
theorem answered_serving {decoded : Envelope} (decodes : dispatcher.codec.decode bytes = .ok decoded)
    (admitted : dispatcher.admits decoded.kind = true) (opened : state.commons.pool.closed = false)
    {context : Context} {handlers : Directory S H → Table String (Handler σ)} {handler : Handler σ}
    (found : (handlers (identify state now session handle).2.directory).get? decoded.kind =
      some handler) {response : Response} {after : σ}
    (answers : handler.Answers context
      (decoded.stamp (identify state now session handle).1 dispatcher.transport addresses) state.rest
      response after) :
    (dispatcher.serving context handlers).answered now session handle addresses bytes state =
      (response.withId decoded.id, after) := by
  have opened : (identify state now session handle).2.commons.pool.closed = false := by
    rw [pool_identify, opened]
  have decodes : (dispatcher.serving context handlers).codec.decode bytes = .ok decoded := decodes
  have admitted : (dispatcher.serving context handlers).admits decoded.kind = true := admitted
  rw [answered, answer_of_decoded decodes, if_pos admitted, run_of_opened opened, rest_identify]
  exact serve_serving dispatcher answers found

/-- A closed pool answers in place of the handlers. -/
theorem answered_of_closed {decoded : Envelope}
    (decodes : dispatcher.codec.decode bytes = .ok decoded)
    (admitted : dispatcher.admits decoded.kind = true) (closed : state.commons.pool.closed = true) :
    dispatcher.answered now session handle addresses bytes state =
      ((Response.failure (dispatcher.describe ErrorCode.unexpectedError []) []).withId decoded.id,
        state.rest) := by
  have closed : (identify state now session handle).2.commons.pool.closed = true := by
    rw [pool_identify, closed]
  rw [answered, answer_of_decoded decodes, if_pos admitted, run_of_closed closed, rest_identify]
  rfl

/-- What a client is told of an unexpected error. -/
def unexpectedReply (describe : Describer) (id : Int64) (identity : Identity) : Response :=
  (Response.failure (describe ErrorCode.unexpectedError []) []).addressed id identity

/-- A message that handlers are asked about and founder on, in whichever step and for whatever reason,
has one response: the failure of an unexpected error, without parameters and payload, under the id of
the message and the identity of the session. It is what a closed pool answers as well, with the
dispatcher's own descriptions. A refusal is answered with its description and payload, whatever its
message. None of this does anything to the directory once the session is identified, nor to the commons
but to count the message and the failure. -/
theorem failures_keep_their_details (dispatcher : Dispatcher S H σ) (now : Nat) (session : S)
    (handle : H) (addresses : Addresses) {bytes : Bytes} {decoded : Envelope}
    (decodes : dispatcher.codec.decode bytes = .ok decoded)
    (admitted : dispatcher.admits decoded.kind = true) (context : Context)
    (handlers : Directory S H → Table String (Handler σ)) (state : DispatchState S H σ) :
    let arrived := identify state now session handle
    let envelope := decoded.stamp arrived.1 dispatcher.transport addresses
    let commons := (arrived.2.commons.count (messageCounter dispatcher.transport)).count
      (failureCounter dispatcher.transport)
    let dispatched :=
      (dispatcher.serving context handlers).dispatch now session handle addresses bytes state
    (state.commons.pool.closed = false →
      ∀ handler, (handlers arrived.2.directory).get? decoded.kind = some handler → ∀ after,
        (handler.Founders context envelope state.rest after →
          dispatched = (unexpectedReply context.describe decoded.id arrived.1,
            ⟨arrived.2.directory, commons, after⟩)) ∧
        ∀ refusal, handler.Refuses context envelope state.rest refusal after →
          dispatched =
            ((Response.failure refusal.descriptor refusal.payload).addressed decoded.id arrived.1,
              ⟨arrived.2.directory, commons, after⟩)) ∧
    (state.commons.pool.closed = true →
      dispatched = (unexpectedReply dispatcher.describe decoded.id arrived.1,
        ⟨arrived.2.directory, commons, state.rest⟩)) ∧
    ∀ describe, (unexpectedReply describe decoded.id arrived.1).wire =
      Json.objectText [("type", Json.quote "RESPONSE"), ("responseCode", Json.quote "FAILURE"),
        ("error", Descriptor.wire (describe ErrorCode.unexpectedError [])),
        ("id", toString decoded.id.toInt), ("systemId", toString arrived.1.value.toNat)] := by
  intro arrived envelope commons dispatched
  refine ⟨fun opened handler found after => ?_, fun closed => ?_, fun describe => rfl⟩
  · constructor
    · intro founders
      exact dispatch_of_failure now session handle addresses
        (answered_serving now session handle addresses decodes admitted opened found founders.answers)
    · intro refusal refuses
      exact dispatch_of_failure now session handle addresses
        (answered_serving now session handle addresses decodes admitted opened found refuses.answers)
  · have decodes : (dispatcher.serving context handlers).codec.decode bytes = .ok decoded := decodes
    exact dispatch_of_failure now session handle addresses
      (answered_of_closed now session handle addresses decodes admitted closed)

namespace Secrets

def client : ConnectionId := ⟨1, 1⟩

def echo : Bytes := utf8 "\x7b\"type\":\"ECHO\",\"id\":7,\"text\":\"hi\"\x7d"

/-- Breaks off with a message. -/
def careless (message : String) : Handler Unit := Lobby.stateless fun _ _ => .brokeOff (some message)

/-- Fails before it does anything. -/
def clumsy (chain : List String) : Handler Unit where
  validate := fun _ _ state => (.failed (.unexpected chain), state)
  process := fun _ _ state => (.done (Response.success []), state)

/-- Refuses with a message. -/
def strict (message : String) : Handler Unit :=
  Lobby.stateless fun context _ => .failed (context.fail ErrorCode.noPad message [] [])

/-- The lobby with another handler for echoes. -/
def lobby (handler : Handler Unit) : Application Unit := Lobby.onWeb.handle "ECHO" handler

/-- What a WebSocket gets for an echo from a handler. -/
def dispatched (handler : Handler Unit) :
    Response × DispatchState ConnectionId ConnectionId (Floor Unit) :=
  (Lobby.fresh.socketDispatcher (lobby handler) .websocket).dispatch 0 client client ⟨none, none⟩ echo
    ⟨Lobby.fresh.desks.get .websocket, Lobby.fresh.commons, Lobby.fresh.floor⟩

theorem kind_of_echo : ∃ decoded, Lobby.onWeb.codec.decode echo = .ok decoded ∧
    decoded.kind = "ECHO" ∧ decoded.id = 7 := by
  have header : (Lobby.onWeb.codec.decode echo).toOption.map (fun envelope =>
      (envelope.kind, envelope.id)) = some ("ECHO", 7) := by decide +kernel
  cases decodes : Lobby.onWeb.codec.decode echo with
  | error error =>
    rw [decodes] at header
    cases header
  | ok decoded =>
    rw [decodes] at header
    obtain ⟨kind, id⟩ := Prod.mk.inj (Option.some.inj header)
    exact ⟨decoded, rfl, kind, id⟩

end Secrets

open Secrets in
/-- A handler that breaks off with one secret and a handler that fails with another have one response,
and so have two that refuse with different messages. -/
theorem secrets_of_echoes_are_kept :
    (dispatched (careless "password")).1 =
        unexpectedReply Lobby.onWeb.describe 7 Lobby.fresh.commons.mint.issue.1 ∧
      (dispatched (clumsy ["no route", "to 10.0.0.7"])).1 = (dispatched (careless "password")).1 ∧
      (dispatched (strict "token is 42")).1 = (dispatched (strict "no such user")).1 := by
  obtain ⟨decoded, decodes, kind, id⟩ := kind_of_echo
  have kept := fun handler : Handler Unit =>
    (failures_keep_their_details (Lobby.fresh.socketDispatcher (lobby handler) .websocket) 0 client
      client ⟨none, none⟩ decodes rfl ⟨Lobby.onWeb.describe⟩
      (fun _ => ((lobby handler).pipeline (Hub.resolve Lobby.fresh.desks.shared)).handlers)
      ⟨Lobby.fresh.desks.get .websocket, Lobby.fresh.commons, Lobby.fresh.floor⟩).1 rfl _
        (by rw [kind]; rfl) Lobby.fresh.floor
  have careless := congrArg Prod.fst
    ((kept (careless "password")).1 (.brokeOffProcessing (some "password") rfl rfl))
  have clumsy := congrArg Prod.fst
    ((kept (clumsy ["no route", "to 10.0.0.7"])).1 (.validating ["no route", "to 10.0.0.7"] rfl))
  have strict := congrArg Prod.fst ((kept (strict "token is 42")).2 _ (.processing rfl rfl))
  have strict' := congrArg Prod.fst ((kept (Secrets.strict "no such user")).2 _ (.processing rfl rfl))
  rw [id] at careless
  exact ⟨careless, clumsy.trans (id ▸ careless.symm), strict.trans strict'.symm⟩

end Dispatcher

end Gateway
