import Gateway.Proofs.Dispatch
import Gateway.Proofs.Hub.Web

/-! # What every message comes to

Whatever bytes arrive and whatever a handler does with them, there is one response. It carries the id
of the envelope, or zero where there is no envelope, and the identity of the session. The rest of it is
settled by the first of these that applies: the bytes are no envelope, the transport does not accept the
type, the worker pool is closed, nothing serves the type, a handler ends. The message is counted once, a
failure once more, and the directory gains what the response names. The handlers are looked up within
the job, so a closed pool hides that nothing serves a type.
-/

namespace Gateway

/-- What a failure to decode is reported as. -/
inductive CodecError.Reports : CodecError → ErrorCode → List Json → Prop where
  | noMessage : Reports .noMessage ErrorCode.noMessage []
  | noType : Reports .noType ErrorCode.noType []
  | unknownType (kind : String) :
    Reports (.unknownType kind) ErrorCode.unknownMessage [.string kind]
  | malformed : Reports (.malformedBody none) ErrorCode.malformedMessage []
  | malformedOf (kind : String) :
    Reports (.malformedBody (some kind)) ErrorCode.malformedMessage [.string kind]

namespace Codec

variable {codec : Codec} {error : CodecError}

theorem reports_of_decodeJson {value : Json} (failed : codec.decodeJson value = .error error) :
    error.Reports error.code error.parameters := by
  unfold decodeJson at failed
  split at failed
  · obtain rfl := Except.error.inj failed
    exact .noMessage
  · split at failed
    · obtain rfl := Except.error.inj failed
      exact .noType
    · split at failed
      · obtain rfl := Except.error.inj failed
        exact .unknownType _
      · split at failed
        · obtain rfl := Except.error.inj failed
          exact .malformedOf _
        · cases failed
  · obtain rfl := Except.error.inj failed
    exact .noType

/-- Every failure to decode has a report: an envelope that cannot be written is none of them. -/
theorem reports_of_decode {bytes : Bytes} (failed : codec.decode bytes = .error error) :
    error.Reports error.code error.parameters := by
  rw [decode] at failed
  split_ifs at failed
  · obtain rfl := Except.error.inj failed
    exact .noMessage
  · cases parsed : Json.parse? bytes with
    | none =>
      rw [parsed] at failed
      obtain rfl := Except.error.inj failed
      exact .malformed
    | some value =>
      rw [parsed] at failed
      exact reports_of_decodeJson failed

end Codec

/-- A response as the sender of a message gets it. -/
def Response.addressed (response : Response) (id : Int64) (identity : Identity) : Response :=
  { response with id := id, identity := some identity }

/-- Responses that a handler builds as successes and failures of its context. -/
inductive Context.Builds (context : Context) : Response → Prop where
  | success (payload : List Json) : Builds context (Response.success payload)
  | failure (code : ErrorCode) (parameters payload : List Json) :
    Builds context (context.failure code parameters payload)
  | withKeys {response : Response} (built : Builds context response) (keys : List Key) :
    Builds context (response.withKeys keys)
  | withId {response : Response} (built : Builds context response) (id : Int64) :
    Builds context (response.withId id)

/-- What is built this way says what failed exactly if it is a failure. -/
theorem Context.Builds.isSome_error {context : Context} {response : Response}
    (built : context.Builds response) : response.error.isSome = response.isFailure := by
  induction built with
  | success payload => rfl
  | failure code parameters payload => rfl
  | withKeys built keys ih => exact ih
  | withId built id ih => exact ih

/-- A pipeline all of whose handlers build their responses as successes and failures. -/
def Pipeline.Builds (pipeline : Pipeline σ) : Prop :=
  ∀ kind handler, pipeline.handlers.get? kind = some handler → ∀ envelope state response after,
    handler.process pipeline.context envelope state = (.done response, after) →
      pipeline.context.Builds response

/-- What a handler comes to in both steps, it comes to in the second one. -/
theorem Pipeline.processed_of_attempt {context : Context} {handler : Handler σ} {envelope : Envelope}
    {state after : σ} {response : Response}
    (ended : attempt context handler envelope state = (.done response, after)) :
    ∃ valid, handler.process context envelope valid = (.done response, after) := by
  rw [attempt] at ended
  rcases checked : handler.validate context envelope state with ⟨_ | _ | _, valid⟩ <;>
    simp only [checked, Prod.mk.injEq, reduceCtorEq, false_and] at ended
  exact ⟨valid, ended⟩

theorem Commons.counters_count {commons : Commons} (remembers : commons.recorder = .memory)
    (name : String) : (commons.count name).counters = commons.counters.record name := by
  rw [count, remembers]
  rfl

namespace Dispatcher

variable {S : Type u} {H : Type v} {σ : Type w}

/-- What the response to bytes is, and what becomes of the state of the services. -/
structure Follows (dispatcher : Dispatcher S H σ) (pipeline : Pipeline σ) (pool : Pool)
    (identity : Identity) (addresses : Addresses) (bytes : Bytes) (rest : σ)
    (answered : Response × σ) : Prop where
  /-- Bytes that are no envelope are reported under the code of the decoding failure. -/
  undecoded : ∀ error, dispatcher.codec.decode bytes = .error error →
    ∃ code parameters, error.Reports code parameters ∧
      answered =
        ((Response.failure (dispatcher.describe code parameters) []).addressed 0 identity, rest)
  /-- A type that the transport does not accept is unexpected. -/
  unwelcome : ∀ decoded, dispatcher.codec.decode bytes = .ok decoded →
    dispatcher.admits decoded.kind = false →
    answered =
      ((Response.failure (dispatcher.describe ErrorCode.unexpectedMessage [.string decoded.kind])
        []).addressed decoded.id identity, rest)
  /-- A closed pool is an unexpected error. -/
  closed : ∀ decoded, dispatcher.codec.decode bytes = .ok decoded →
    dispatcher.admits decoded.kind = true → pool.closed = true →
    answered =
      ((Response.failure (dispatcher.describe ErrorCode.unexpectedError []) []).addressed decoded.id
        identity, rest)
  /-- A type that nothing serves is unknown. -/
  unserved : ∀ decoded, dispatcher.codec.decode bytes = .ok decoded →
    dispatcher.admits decoded.kind = true → pool.closed = false →
    pipeline.handlers.get? decoded.kind = none →
    answered =
      ((Response.failure (pipeline.context.describe ErrorCode.unknownMessage
        [.string decoded.kind]) []).addressed decoded.id identity, rest)
  /-- Both steps of a handler see the stamped envelope. What it answers or refuses is the response;
  other failures, and breaking off, are an unexpected error. -/
  served : ∀ decoded handler, dispatcher.codec.decode bytes = .ok decoded →
    dispatcher.admits decoded.kind = true → pool.closed = false →
    pipeline.handlers.get? decoded.kind = some handler →
    let envelope := decoded.stamp identity dispatcher.transport addresses
    let ended := Pipeline.attempt pipeline.context handler envelope rest
    let response :=
      match ended.1 with
      | .done response => response
      | .failed (.refused refusal) => Response.failure refusal.descriptor refusal.payload
      | .failed (.unexpected _) | .brokeOff _ =>
        Response.failure (pipeline.context.describe ErrorCode.unexpectedError []) []
    answered = (response.addressed decoded.id identity, ended.2)

/-- How often a message was counted that ended as a failure or not. -/
structure Counted (transport : Transport) (failed : Bool) (before after : Counters) : Prop where
  messages : after.get (messageCounter transport) = before.get (messageCounter transport) + 1
  failures : after.get (failureCounter transport) =
    before.get (failureCounter transport) + if failed then 1 else 0
  others : ∀ name, name ≠ messageCounter transport → name ≠ failureCounter transport →
    after.get name = before.get name

theorem messageCounter_ne_failureCounter (transport : Transport) :
    messageCounter transport ≠ failureCounter transport := by
  cases transport <;> decide

section

variable {dispatcher : Dispatcher S H σ} {pool : Pool} {bytes : Bytes}

/-- An envelope is answered by whether the transport accepts its type. -/
theorem answer_of_decoded {decoded : Envelope} (decodes : dispatcher.codec.decode bytes = .ok decoded)
    (pool : Pool) (directory : Directory S H) (identity : Identity) (addresses : Addresses)
    (rest : σ) :
    dispatcher.answer pool directory identity addresses bytes rest =
      if dispatcher.admits decoded.kind then
        dispatcher.run pool directory (decoded.stamp identity dispatcher.transport addresses) rest
      else
        ((dispatcher.failure ErrorCode.unexpectedMessage [.string decoded.kind]).withId decoded.id,
          rest) := by
  rw [answer, decodes]
  rfl

theorem run_of_closed (closed : pool.closed = true) (directory : Directory S H) (envelope : Envelope)
    (rest : σ) :
    dispatcher.run pool directory envelope rest =
      ((dispatcher.failure ErrorCode.unexpectedError []).withId envelope.id, rest) := by
  simp only [run, Pool.run, closed, ↓reduceIte]

theorem run_of_opened (opened : pool.closed = false) (directory : Directory S H)
    (envelope : Envelope) (rest : σ) :
    dispatcher.run pool directory envelope rest = dispatcher.serve directory envelope rest := by
  simp only [run, Pool.run, opened, Bool.false_eq_true, ↓reduceIte]

variable {pipelines : Directory S H → Pipeline σ}
  (serves : ∀ directory, dispatcher.serve directory = (pipelines directory).serve)

include serves

/-- The answer that dispatching asks for follows the pipeline that goes with the directory. -/
theorem follows_answer (pool : Pool) (directory : Directory S H) (identity : Identity)
    (addresses : Addresses) (bytes : Bytes) (rest : σ) :
    let answered := dispatcher.answer pool directory identity addresses bytes rest
    dispatcher.Follows (pipelines directory) pool identity addresses bytes rest
      ({ answered.1 with identity := some identity }, answered.2) where
  undecoded error failed := by
    refine ⟨error.code, error.parameters, Codec.reports_of_decode failed, ?_⟩
    rw [answer, failed]
    rfl
  unwelcome decoded decodes refused := by
    rw [answer_of_decoded decodes, if_neg (by rw [refused]; exact Bool.false_ne_true)]
    rfl
  closed decoded decodes admitted closed := by
    rw [answer_of_decoded decodes, if_pos admitted, run_of_closed closed]
    rfl
  unserved decoded decodes admitted opened unserved := by
    rw [answer_of_decoded decodes, if_pos admitted, run_of_opened opened, serves, Pipeline.serve,
      Pipeline.outcome]
    have unserved : (pipelines directory).handlers.get?
      (decoded.stamp identity dispatcher.transport addresses).kind = none := unserved
    rw [unserved]
    rfl
  served decoded handler decodes admitted opened found := by
    rw [answer_of_decoded decodes, if_pos admitted, run_of_opened opened, serves, Pipeline.serve,
      Pipeline.outcome]
    have found : (pipelines directory).handlers.get?
      (decoded.stamp identity dispatcher.transport addresses).kind = some handler := found
    rw [found]
    simp only
    rcases Pipeline.attempt (pipelines directory).context handler
      (decoded.stamp identity dispatcher.transport addresses) rest with
      ⟨_ | (_ | _) | _, after⟩ <;> rfl

end

/-- One of the rules applies, so the id is settled, and so is what the response says of a failure. -/
theorem Follows.exhaustive {dispatcher : Dispatcher S H σ} {pipeline : Pipeline σ} {pool : Pool}
    {identity : Identity} {addresses : Addresses} {bytes : Bytes} {rest : σ}
    {answered : Response × σ}
    (follows : dispatcher.Follows pipeline pool identity addresses bytes rest answered) :
    answered.1.id = (match dispatcher.codec.decode bytes with
      | .ok decoded => decoded.id
      | .error _ => 0) ∧
    (pipeline.Builds → answered.1.error.isSome = answered.1.isFailure) := by
  cases decodes : dispatcher.codec.decode bytes with
  | error error =>
    obtain ⟨code, parameters, -, rfl⟩ := follows.undecoded error decodes
    exact ⟨rfl, fun _ => rfl⟩
  | ok decoded =>
    cases admitted : dispatcher.admits decoded.kind with
    | false =>
      obtain rfl := follows.unwelcome decoded decodes admitted
      exact ⟨rfl, fun _ => rfl⟩
    | true =>
      cases closed : pool.closed with
      | true =>
        obtain rfl := follows.closed decoded decodes admitted closed
        exact ⟨rfl, fun _ => rfl⟩
      | false =>
        cases found : pipeline.handlers.get? decoded.kind with
        | none =>
          obtain rfl := follows.unserved decoded decodes admitted closed found
          exact ⟨rfl, fun _ => rfl⟩
        | some handler =>
          obtain rfl := follows.served decoded handler decodes admitted closed found
          refine ⟨rfl, fun builds => ?_⟩
          rcases ended : Pipeline.attempt pipeline.context handler
            (decoded.stamp identity dispatcher.transport addresses) rest with
            ⟨response | (refusal | chain) | message, after⟩
          · obtain ⟨valid, processed⟩ := Pipeline.processed_of_attempt ended
            exact (builds _ handler found _ valid response after processed).isSome_error
          all_goals rfl

variable [DecidableEq S]

section

variable (state : DispatchState S H σ) (now : Nat) (session : S) (handle : H)

/-- Identifying the sender takes at most an identity from the commons. -/
theorem commons_identify :
    ∃ mint, (identify state now session handle).2.commons = { state.commons with mint := mint } := by
  rw [identify]
  split
  · exact ⟨state.commons.mint, rfl⟩
  · exact ⟨_, rfl⟩

/-- Whoever is identified is known. -/
theorem identity?_identify :
    (identify state now session handle).2.directory.identity? session =
      some (identify state now session handle).1 := by
  rw [identify]
  split
  · assumption
  · exact Directory.identity?_connect ..

theorem identify_of_known {id : Identity} (known : state.directory.identity? session = some id) :
    identify state now session handle = (id, state) := by
  rw [Directory.identity?] at known
  rw [identify, known]

end

/-- The commons after a message are those that identifying its sender leaves, with the counts. -/
theorem commons_dispatch (dispatcher : Dispatcher S H σ) (now : Nat) (session : S) (handle : H)
    (addresses : Addresses) (bytes : Bytes) (state : DispatchState S H σ) :
    let dispatched := dispatcher.dispatch now session handle addresses bytes state
    let message := (identify state now session handle).2.commons.count
      (messageCounter dispatcher.transport)
    dispatched.2.commons =
      if dispatched.1.isFailure then message.count (failureCounter dispatcher.transport)
      else message := rfl

/-- Dispatching counts the message, and the failure if it is one. -/
theorem counted_dispatch (dispatcher : Dispatcher S H σ) (now : Nat) (session : S) (handle : H)
    (addresses : Addresses) (bytes : Bytes) {state : DispatchState S H σ}
    (remembers : state.commons.recorder = .memory) :
    let dispatched := dispatcher.dispatch now session handle addresses bytes state
    Counted dispatcher.transport dispatched.1.isFailure state.commons.counters
      dispatched.2.commons.counters := by
  intro dispatched
  obtain ⟨mint, commons⟩ := commons_identify state now session handle
  have arrived : (identify state now session handle).2.commons.counters = state.commons.counters := by
    rw [commons]
  have remembers : (identify state now session handle).2.commons.recorder = .memory := by
    rw [commons]
    exact remembers
  have counters : dispatched.2.commons.counters =
      if dispatched.1.isFailure then
        (state.commons.counters.record (messageCounter dispatcher.transport)).record
          (failureCounter dispatcher.transport)
      else state.commons.counters.record (messageCounter dispatcher.transport) := by
    rw [commons_dispatch]
    split_ifs
    · rw [Commons.counters_count, Commons.counters_count remembers, arrived]
      exact remembers
    · rw [Commons.counters_count remembers, arrived]
  have distinct := messageCounter_ne_failureCounter dispatcher.transport
  rw [counters]
  refine ⟨?_, ?_, fun name message failure => ?_⟩
  · split_ifs <;> simp [distinct.symm]
  · split_ifs <;> simp [distinct]
  · split_ifs <;> simp [message.symm, failure.symm]

/-- Whatever the handlers do, dispatching accounts for every message. The response carries the identity
under which the session is known afterwards, which is the one that it had if it had one, and the id of
the envelope or zero. It follows the rules, and it says what failed exactly if it is a failure, where
handlers build no other responses. The message is counted, and the failure if it is one. The directory
gains the keys of the response, for the handle, and nothing else after the sender is identified. -/
theorem dispatch_accounts_for_message {dispatcher : Dispatcher S H σ}
    {pipelines : Directory S H → Pipeline σ}
    (serves : ∀ directory, dispatcher.serve directory = (pipelines directory).serve) (now : Nat)
    (session : S) (handle : H) (addresses : Addresses) (bytes : Bytes) (state : DispatchState S H σ) :
    let arrived := identify state now session handle
    let pipeline := pipelines arrived.2.directory
    let response := (dispatcher.dispatch now session handle addresses bytes state).1
    let after := (dispatcher.dispatch now session handle addresses bytes state).2
    (response.identity = some arrived.1 ∧ after.directory.identity? session = some arrived.1 ∧
      ∀ id, state.directory.identity? session = some id → arrived = (id, state)) ∧
    response.id = (match dispatcher.codec.decode bytes with
      | .ok decoded => decoded.id
      | .error _ => 0) ∧
    dispatcher.Follows pipeline state.commons.pool arrived.1 addresses bytes state.rest
      (response, after.rest) ∧
    (pipeline.Builds → response.error.isSome = response.isFailure) ∧
    (state.commons.recorder = .memory →
      Counted dispatcher.transport response.isFailure state.commons.counters
        after.commons.counters) ∧
    after.directory = arrived.2.directory.registerAll now (response.keys.getD []) handle ∧
    after.commons.mint = arrived.2.commons.mint ∧ after.commons.pool = state.commons.pool := by
  intro arrived pipeline response after
  obtain ⟨mint, commons⟩ := commons_identify state now session handle
  have pool : arrived.2.commons.pool = state.commons.pool := by
    rw [commons]
  have follows : dispatcher.Follows pipeline state.commons.pool arrived.1 addresses bytes state.rest
      (response, after.rest) := by
    have answered := follows_answer serves arrived.2.commons.pool arrived.2.directory arrived.1
      addresses bytes arrived.2.rest
    have rest : arrived.2.rest = state.rest := rest_identify now session handle state
    rw [← pool, ← rest]
    exact answered
  obtain ⟨id, described⟩ := follows.exhaustive
  refine ⟨⟨rfl, ?_, ?_⟩, id, follows, described,
    counted_dispatch dispatcher now session handle addresses bytes, rfl, ?_, ?_⟩
  · rw [Directory.identity?, directory_dispatch, Directory.roster_registerAll]
    exact identity?_identify state now session handle
  · exact fun id known => identify_of_known state now session handle known
  · exact mint_dispatch dispatcher now session handle addresses bytes state
  · rw [commons_dispatch, commons]
    split_ifs <;> rfl

namespace Unserved

def client : ConnectionId := ⟨1, 1⟩

/-- The lobby can read a move but has no handler for it. -/
def move : Bytes :=
  utf8 "\x7b\"type\":\"MOVE\",\"id\":7,\"x\":1,\"y\":2\x7d"

/-- What a WebSocket of the lobby gets for a move. -/
def dispatched (hub : Hub Unit) :
    Response × DispatchState ConnectionId ConnectionId (Floor Unit) :=
  (hub.socketDispatcher Lobby.onWeb .websocket).dispatch 0 client client ⟨none, none⟩ move
    ⟨hub.desks.get .websocket, hub.commons, hub.floor⟩

theorem kind_of_move :
    ∃ decoded, Lobby.onWeb.codec.decode move = .ok decoded ∧ decoded.kind = "MOVE" := by
  have kind : (Lobby.onWeb.codec.decode move).toOption.map Envelope.kind = some "MOVE" := by
    decide +kernel
  cases decodes : Lobby.onWeb.codec.decode move with
  | error error =>
    rw [decodes] at kind
    cases kind
  | ok decoded =>
    rw [decodes] at kind
    exact ⟨decoded, rfl, Option.some.inj kind⟩

end Unserved

/-- While the pool is open, the type of a move is unknown. -/
theorem dispatch_accounts_for_move :
    (∀ directory, (Lobby.fresh.socketDispatcher Lobby.onWeb .websocket).serve directory =
        (Lobby.onWeb.pipeline (Hub.resolve Lobby.fresh.desks.shared)).serve) ∧
      (Unserved.dispatched Lobby.fresh).1.id = 7 ∧
      (Unserved.dispatched Lobby.fresh).1.error.map Descriptor.code =
        some ErrorCode.unknownMessage ∧
      Counted .websocket true Lobby.fresh.commons.counters
        (Unserved.dispatched Lobby.fresh).2.commons.counters := by
  have serves : ∀ directory, (Lobby.fresh.socketDispatcher Lobby.onWeb .websocket).serve directory =
      (Lobby.onWeb.pipeline (Hub.resolve Lobby.fresh.desks.shared)).serve := fun _ => rfl
  obtain ⟨-, id, follows, -, counted, -⟩ := dispatch_accounts_for_message serves 0 Unserved.client
    Unserved.client ⟨none, none⟩ Unserved.move
    ⟨Lobby.fresh.desks.get .websocket, Lobby.fresh.commons, Lobby.fresh.floor⟩
  obtain ⟨decoded, decodes, kind⟩ := Unserved.kind_of_move
  have unknown := congrArg Prod.fst (follows.unserved decoded decodes rfl rfl (by rw [kind]; rfl))
  refine ⟨serves, id.trans (by decide +kernel), ?_, ?_⟩
  · exact congrArg (fun response => response.error.map Descriptor.code) unknown
  · have failed : (Unserved.dispatched Lobby.fresh).1.isFailure = true :=
      congrArg Response.isFailure unknown
    exact failed ▸ counted rfl

/-- Once the pool is closed, it is an unexpected error instead. -/
theorem unserved_type_unexpected_behind_closed_pool :
    (∃ decoded, Lobby.onWeb.codec.decode Unserved.move = .ok decoded ∧
        (Lobby.fresh.closePool.socketDispatcher Lobby.onWeb .websocket).admits decoded.kind = true ∧
        (Lobby.onWeb.pipeline (Hub.resolve Lobby.fresh.closePool.desks.shared)).handlers.get?
          decoded.kind = none) ∧
      (Unserved.dispatched Lobby.fresh.closePool).1.isFailure = true ∧
      (Unserved.dispatched Lobby.fresh.closePool).1.error.map Descriptor.code ≠
        some ErrorCode.unknownMessage := by
  obtain ⟨decoded, decodes, kind⟩ := Unserved.kind_of_move
  refine ⟨⟨decoded, decodes, rfl, by rw [kind]; rfl⟩, by decide +kernel, by decide +kernel⟩

end Dispatcher

end Gateway
