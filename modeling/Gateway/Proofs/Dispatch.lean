import Gateway.Application
import Mathlib.Tactic.SplitIfs

/-! # What dispatching leaves to the services

A dispatched message reaches the state of the services in at most one way: through the service of its
type, with an envelope that the gateway has stamped. Every other answer is a failure that leaves this
state alone and names no keys. So what the services do carries over to dispatching, be it to one state
or to two related ones. What happens to the directory and to the commons does not depend on the
services beyond the keys of the answer.
-/

namespace Gateway

/-- A step that has the same result on related states and leaves related states. -/
def Respects (related : σ → σ → Prop) (step : σ → R × σ) : Prop :=
  ∀ ⦃first second⦄, related first second →
    (step second).1 = (step first).1 ∧ related (step first).2 (step second).2

/-- A handler both of whose steps respect a relation. -/
def Handler.Respectful (related : σ → σ → Prop) (handler : Handler σ) : Prop :=
  ∀ context envelope, Respects related (handler.validate context envelope) ∧
    Respects related (handler.process context envelope)

/-- Whether all keys that a response names are of some kind. -/
def Response.Names (named : Key → Prop) (response : Response) : Prop :=
  ∀ key ∈ response.keys.getD [], named key

/-- A handler whose responses name keys of some kind only. -/
def Handler.Names (named : Key → Prop) (handler : Handler σ) : Prop :=
  ∀ context envelope state response after,
    handler.process context envelope state = (.done response, after) → response.Names named

theorem Response.names_of_none {named : Key → Prop} {response : Response}
    (none : response.keys = none) : response.Names named := by
  intro key member
  rw [none] at member
  cases member

/-- A handler names the same keys when it works on a part of a state. -/
theorem Handler.Names.onPart {named : Key → Prop} {handler : Handler τ}
    (names : handler.Names named) (part : σ → τ) (replace : σ → τ → σ) :
    (handler.onPart part replace).Names named := by
  intro context envelope state response after processed
  rcases inner : handler.process context envelope (part state) with ⟨outcome, changed⟩
  simp only [Handler.onPart, inner, Prod.mk.injEq] at processed
  obtain ⟨rfl, -⟩ := processed
  exact names context envelope (part state) response changed inner

namespace Respects

variable {σ : Type u} {related : σ → σ → Prop}

/-- A step that does not touch the state. -/
theorem constant (result : R) : Respects related fun state => (result, state) :=
  fun _ _ same => ⟨rfl, same⟩

end Respects

namespace Pipeline

variable {σ : Type u} {related : σ → σ → Prop}

/-- What all handlers of a pipeline respect, the pipeline respects. -/
theorem respects_serve {pipeline : Pipeline σ}
    (respectful : ∀ kind handler,
      pipeline.handlers.get? kind = some handler → handler.Respectful related)
    (envelope : Envelope) : Respects related (pipeline.serve envelope) := by
  have outcomes : Respects related (pipeline.outcome envelope) := by
    unfold outcome
    cases found : pipeline.handlers.get? envelope.kind with
    | none => exact .constant _
    | some handler =>
      obtain ⟨validating, processing⟩ :=
        respectful envelope.kind handler found pipeline.context envelope
      intro one two same
      obtain ⟨result, states⟩ := validating same
      simp only [attempt]
      rcases checked : handler.validate pipeline.context envelope one with ⟨_ | _ | _, after⟩ <;>
        rcases checked' : handler.validate pipeline.context envelope two with ⟨_ | _ | _, after'⟩ <;>
        simp only [checked, checked', reduceCtorEq] at result states ⊢
      · exact processing states
      · exact ⟨congrArg Outcome.failed (Outcome.failed.inj result), states⟩
      · exact ⟨congrArg Outcome.brokeOff (Outcome.brokeOff.inj result), states⟩
  intro one two same
  obtain ⟨result, states⟩ := outcomes same
  refine ⟨?_, states⟩
  simp only [serve, result]

/-- The keys that a pipeline's answer names are named by one of the handlers. -/
theorem names_serve {named : Key → Prop} {pipeline : Pipeline σ}
    (names : ∀ kind handler, pipeline.handlers.get? kind = some handler → handler.Names named)
    (envelope : Envelope) (state : σ) : (pipeline.serve envelope state).1.Names named := by
  have answered : ∀ outcome : Outcome Response, (∀ response, outcome = .done response →
      response.Names named) → (answer pipeline.context outcome).Names named := by
    intro outcome done
    rcases outcome with response | error | message
    · exact done response rfl
    · cases error <;> exact Response.names_of_none rfl
    · exact Response.names_of_none rfl
  refine answered (pipeline.outcome envelope state).1 fun response done => ?_
  rw [outcome] at done
  cases found : pipeline.handlers.get? envelope.kind with
  | none =>
    simp only [found, reduceCtorEq] at done
  | some handler =>
    simp only [found, attempt] at done
    rcases checked : handler.validate pipeline.context envelope state with ⟨_ | _ | _, after⟩ <;>
      simp only [checked, reduceCtorEq] at done
    exact names envelope.kind handler found _ envelope after response _ (Prod.ext done rfl)

end Pipeline

namespace Dispatcher

variable {S : Type u} {H : Type v} {σ : Type w}

/-- The envelope that the services are asked about, if they are asked. -/
def accepted? (dispatcher : Dispatcher S H σ) (pool : Pool) (id : Identity) (addresses : Addresses)
    (bytes : Bytes) : Option Envelope :=
  match dispatcher.codec.decode bytes with
  | .error _ => none
  | .ok decoded =>
    let envelope := decoded.stamp id dispatcher.transport addresses
    if dispatcher.admits envelope.kind ∧ pool.closed = false then some envelope else none

/-- An accepted envelope is a decoded one, stamped with the identity of the session. -/
theorem stamped_of_accepted {dispatcher : Dispatcher S H σ} {pool : Pool} {id : Identity}
    {addresses : Addresses} {bytes : Bytes} {envelope : Envelope}
    (accepted : dispatcher.accepted? pool id addresses bytes = some envelope) :
    ∃ decoded, dispatcher.codec.decode bytes = .ok decoded ∧
      envelope = decoded.stamp id dispatcher.transport addresses := by
  rw [accepted?] at accepted
  cases decoding : dispatcher.codec.decode bytes with
  | error error =>
    rw [decoding] at accepted
    cases accepted
  | ok decoded =>
    simp only [decoding] at accepted
    split_ifs at accepted
    exact ⟨decoded, rfl, (Option.some.inj accepted).symm⟩

/-- An accepted envelope is answered by the services. -/
theorem answer_of_accepted {dispatcher : Dispatcher S H σ} {pool : Pool} {id : Identity}
    {addresses : Addresses} {bytes : Bytes} {envelope : Envelope}
    (accepted : dispatcher.accepted? pool id addresses bytes = some envelope)
    (directory : Directory S H) (rest : σ) :
    dispatcher.answer pool directory id addresses bytes rest =
      dispatcher.serve directory envelope rest := by
  rw [accepted?] at accepted
  rw [answer]
  cases decoding : dispatcher.codec.decode bytes with
  | error error =>
    rw [decoding] at accepted
    cases accepted
  | ok decoded =>
    simp only [decoding] at accepted ⊢
    split_ifs at accepted with asked
    obtain rfl := Option.some.inj accepted
    simp only [asked.1, ↓reduceIte, run, Pool.run, asked.2, Bool.false_eq_true]

/-- Every other answer is a failure that leaves the state of the services alone. -/
theorem answer_of_declined {dispatcher : Dispatcher S H σ} {pool : Pool} {id : Identity}
    {addresses : Addresses} {bytes : Bytes}
    (declined : dispatcher.accepted? pool id addresses bytes = none) (directory : Directory S H)
    (rest : σ) :
    ∃ response : Response, response.keys = none ∧ response.isSuccess = false ∧
      dispatcher.answer pool directory id addresses bytes rest = (response, rest) := by
  rw [accepted?] at declined
  rw [answer]
  cases decoding : dispatcher.codec.decode bytes with
  | error error => exact ⟨_, rfl, rfl, rfl⟩
  | ok decoded =>
    simp only [decoding] at declined ⊢
    split_ifs with admitted
    · have closed : pool.closed = true := by
        simpa only [admitted, true_and, ite_eq_right_iff, reduceCtorEq, imp_false,
          Bool.not_eq_false] using declined
      exact ⟨_, rfl, rfl, by simp only [run, Pool.run, closed, ↓reduceIte]; rfl⟩
    · exact ⟨_, rfl, rfl, rfl⟩

/-- The keys that an answer names are named by the services. -/
theorem names_answer {named : Key → Prop} (dispatcher : Dispatcher S H σ)
    (names : ∀ directory envelope rest, (dispatcher.serve directory envelope rest).1.Names named)
    (pool : Pool) (directory : Directory S H) (id : Identity) (addresses : Addresses)
    (bytes : Bytes) (rest : σ) :
    (dispatcher.answer pool directory id addresses bytes rest).1.Names named := by
  cases accepted : dispatcher.accepted? pool id addresses bytes with
  | none =>
    obtain ⟨response, silent, -, same⟩ := answer_of_declined accepted directory rest
    rw [same]
    exact Response.names_of_none silent
  | some envelope =>
    rw [answer_of_accepted accepted]
    exact names directory envelope rest

/-- What the services respect, answering respects. -/
theorem respects_answer {related : σ → σ → Prop} (dispatcher : Dispatcher S H σ) (pool : Pool)
    (directory : Directory S H) (id : Identity) (addresses : Addresses) (bytes : Bytes)
    (serves : ∀ envelope, Respects related (dispatcher.serve directory envelope)) :
    Respects related (dispatcher.answer pool directory id addresses bytes) := by
  unfold answer
  cases dispatcher.codec.decode bytes with
  | error error => exact .constant _
  | ok decoded =>
    simp only
    split_ifs with admitted
    · simp only [run.eq_def, Pool.run]
      split_ifs with closed
      · exact .constant _
      · exact serves _
    · exact .constant _

variable [DecidableEq S]

section

variable (dispatcher : Dispatcher S H σ) (now : Nat) (session : S) (handle : H)
  (addresses : Addresses) (bytes : Bytes) (state : DispatchState S H σ)

/-- The answer that dispatching gets for a message, before the identity is put on it. -/
def answered : Response × σ :=
  let arrived := identify state now session handle
  dispatcher.answer arrived.2.commons.pool arrived.2.directory arrived.1 addresses bytes
    arrived.2.rest

/-- Whoever sends a message is told its identity. -/
theorem identity_dispatch :
    (dispatcher.dispatch now session handle addresses bytes state).1.identity =
      some (identify state now session handle).1 := rfl

theorem directory_dispatch :
    (dispatcher.dispatch now session handle addresses bytes state).2.directory =
      (identify state now session handle).2.directory.registerAll now
        ((dispatcher.answered now session handle addresses bytes state).1.keys.getD []) handle := rfl

theorem mint_dispatch :
    (dispatcher.dispatch now session handle addresses bytes state).2.commons.mint =
      (identify state now session handle).2.commons.mint := by
  simp only [dispatch]
  split_ifs <;> rfl

theorem rest_identify : (identify state now session handle).2.rest = state.rest := by
  rw [identify]
  split <;> rfl

/-- The services' view of a message: the directory as it stands once the session is known, and the
envelope that they are asked about, if they are asked. -/
def call? : Option (Directory S H × Envelope) :=
  let arrived := identify state now session handle
  (dispatcher.accepted? arrived.2.commons.pool arrived.1 addresses bytes).map
    (arrived.2.directory, ·)

variable {dispatcher now session handle addresses bytes state}

/-- The services see the sender's identity and the directory in which it is known. -/
theorem stamped_of_call {directory : Directory S H} {envelope : Envelope}
    (called : dispatcher.call? now session handle addresses bytes state =
      some (directory, envelope)) :
    directory = (identify state now session handle).2.directory ∧
      ∃ decoded, dispatcher.codec.decode bytes = .ok decoded ∧
        envelope = decoded.stamp (identify state now session handle).1 dispatcher.transport
          addresses := by
  obtain ⟨_, accepted, same⟩ := Option.map_eq_some_iff.mp called
  obtain ⟨rfl, rfl⟩ := Prod.mk.inj same
  exact ⟨rfl, stamped_of_accepted accepted⟩

/-- What the services are asked, they answer. -/
theorem answered_of_call {directory : Directory S H} {envelope : Envelope}
    (called : dispatcher.call? now session handle addresses bytes state =
      some (directory, envelope)) :
    dispatcher.answered now session handle addresses bytes state =
      dispatcher.serve directory envelope state.rest := by
  obtain ⟨_, accepted, same⟩ := Option.map_eq_some_iff.mp called
  obtain ⟨rfl, rfl⟩ := Prod.mk.inj same
  rw [answered, answer_of_accepted accepted, rest_identify]

theorem answered_of_uncalled
    (uncalled : dispatcher.call? now session handle addresses bytes state = none) :
    ∃ response : Response, response.keys = none ∧ response.isSuccess = false ∧
      dispatcher.answered now session handle addresses bytes state = (response, state.rest) := by
  obtain ⟨response, silent, failed, same⟩ := answer_of_declined (Option.map_eq_none_iff.mp uncalled)
    (identify state now session handle).2.directory (identify state now session handle).2.rest
  exact ⟨response, silent, failed, same.trans (by rw [rest_identify])⟩

end

/-- Dispatching the same message over commons that differ in their counters, with states of the
services that are related, has the same response, the same effect on the directory and the mint, and
related states. -/
theorem dispatch_congr {related : σ → σ → Prop} (dispatcher : Dispatcher S H σ)
    (serves : ∀ directory envelope, Respects related (dispatcher.serve directory envelope))
    (now : Nat) (session : S) (handle : H) (addresses : Addresses) (bytes : Bytes)
    (directory : Directory S H) (commons : Commons) (counters : Counters) {one two : σ}
    (same : related one two) :
    let first := dispatcher.dispatch now session handle addresses bytes ⟨directory, commons, one⟩
    let second := dispatcher.dispatch now session handle addresses bytes
      ⟨directory, { commons with counters := counters }, two⟩
    second.1 = first.1 ∧ second.2.directory = first.2.directory ∧
      (∃ counters, second.2.commons = { first.2.commons with counters := counters }) ∧
      related first.2.rest second.2.rest := by
  intro first second
  have kept := rest_identify now session handle ⟨directory, commons, one⟩
  have identified : identify ⟨directory, { commons with counters := counters }, two⟩ now session
      handle =
        ((identify ⟨directory, commons, one⟩ now session handle).1,
          ⟨(identify ⟨directory, commons, one⟩ now session handle).2.directory,
            { (identify ⟨directory, commons, one⟩ now session handle).2.commons with
              counters := counters }, two⟩) := by
    simp only [identify]
    cases directory.roster.get? session with
    | none => rfl
    | some id => rfl
  rcases arrived : identify ⟨directory, commons, one⟩ now session handle with
    ⟨id, directory, commons, rest⟩
  rw [arrived] at kept identified
  obtain rfl : rest = one := kept
  obtain ⟨response, states⟩ := respects_answer dispatcher commons.pool directory id addresses bytes
    (serves directory) same
  simp only [first, second, dispatch, arrived, identified, Commons.count, response, true_and]
  refine ⟨?_, states⟩
  split_ifs <;> exact ⟨_, rfl⟩

end Dispatcher

end Gateway
