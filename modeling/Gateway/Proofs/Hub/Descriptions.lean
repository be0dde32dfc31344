import Gateway.Proofs.Dispatch.Account
import Gateway.Proofs.Hub.Call
import Gateway.Proofs.Message.Template
import Mathlib.Data.List.Infix

/-! # Descriptions of the gateway's own failures

A description is filled if it has a parameter for every placeholder of its template. The built-in templates
have one placeholder at most, so all there is to it is whether the codes with a placeholder come with a
parameter. They do wherever the gateway itself fails a message, but for two ways: a text that says
nothing is malformed without a type to name, and a request for a pad of a nameless pair is malformed
without its own. What a handler of the application answers or refuses is its own affair.
-/

namespace Gateway

namespace Descriptor

/-- Whether a descriptor has a parameter for every placeholder in its template. -/
def IsFilled (descriptor : Descriptor) : Prop :=
  ∀ index, placeholder index <:+: descriptor.template.toList → index < descriptor.parameters.length

/-- The indices of the placeholders in a text, from left to right. -/
def slots (text : List Char) : List Nat := text.tails.filterMap slotAt?

theorem mem_slots {index : Nat} {text : List Char} :
    index ∈ slots text ↔ placeholder index <:+: text := by
  rw [slots, List.mem_filterMap, List.infix_iff_prefix_suffix]
  simp only [List.mem_tails, slotAt?_eq_some_iff, and_comm]

theorem isFilled_iff_slots {descriptor : Descriptor} :
    descriptor.IsFilled ↔
      ∀ index ∈ slots descriptor.template.toList, index < descriptor.parameters.length := by
  simp only [IsFilled, mem_slots]

end Descriptor

namespace Templates

open Descriptor (slots)

/-- The codes whose built-in templates have a placeholder. -/
def namingCodes : List ErrorCode :=
  [ErrorCode.unknownMessage, ErrorCode.malformedMessage, ErrorCode.unexpectedMessage, ErrorCode.noPad]

theorem slots_of_mem {code : ErrorCode} {template : String}
    (member : (code, template) ∈ builtIn.table.entries) :
    slots template.toList = if code ∈ namingCodes then [0] else [] := by
  have all : (builtIn.table.entries.all fun entry =>
      slots entry.2.toList = if entry.1 ∈ namingCodes then [0] else []) = true := by decide +kernel
  exact of_decide_eq_true (List.all_eq_true.mp all _ member)

/-- A built-in template has the first placeholder if its code is one of these, and no other. -/
theorem slots_describe (code : ErrorCode) (parameters : List Json) :
    slots (builtIn.describe code parameters).template.toList =
      if code ∈ namingCodes then [0] else [] := by
  rw [describe]
  cases listed : builtIn.table.get? code with
  | some template => exact slots_of_mem (Table.get?_eq_some_iff.mp listed)
  | none =>
    have known : (namingCodes.all fun code => code ∈ builtIn.table.keys) = true := by decide +kernel
    have outside : code ∉ namingCodes := fun naming => Table.get?_eq_none_iff.mp listed
      (of_decide_eq_true (List.all_eq_true.mp known code naming))
    have last : slots ((builtIn.table.get? ErrorCode.unexpectedError).getD "").toList = [] := by
      decide +kernel
    rw [if_neg outside, Option.none_or, last]

/-- The built-in description of a failure is filled if its code has no placeholder or there is any
parameter. -/
theorem isFilled_describe_iff {code : ErrorCode} {parameters : List Json} :
    (builtIn.describe code parameters).IsFilled ↔ (code ∈ namingCodes → parameters ≠ []) := by
  rw [Descriptor.isFilled_iff_slots, slots_describe]
  have same : (builtIn.describe code parameters).parameters = parameters := rfl
  rw [same]
  by_cases naming : code ∈ namingCodes
  · simp [naming, List.length_pos_iff]
  · simp [naming]

end Templates

namespace PadExchange

/-- How a request ends. -/
inductive RequestEnds (context : Context) (envelope : Envelope) : Outcome Response → Prop where
  | granted (pad : Bytes) : requestedPair? envelope ≠ some "" →
      RequestEnds context envelope (.done (Response.success [.string (Base64.encode pad)]))
  | misread : requestedPair? envelope = none →
      RequestEnds context envelope (.failed (notARequest context))
  | nameless : requestedPair? envelope = some "" → RequestEnds context envelope
      (.failed (context.fail ErrorCode.malformedMessage "empty pairing key" [] []))
  | plaintext : requestedPair? envelope ≠ some "" → RequestEnds context envelope
      (.failed (context.fail ErrorCode.notEncrypted "key requested over plaintext" [] []))
  | padless (error : PadError) : requestedPair? envelope ≠ some "" → RequestEnds context envelope
      (.failed (context.fail ErrorCode.invalidPad error.message [] []))
  | unexpected (chain : List String) : requestedPair? envelope ≠ some "" →
      RequestEnds context envelope (.failed (.unexpected chain))

/-- How a confirmation ends. -/
inductive AckEnds (context : Context) (envelope : Envelope) : Outcome Response → Prop where
  | activated : AckEnds context envelope (.done (Response.success []))
  | unaddressed : envelope.addresses.client = none → AckEnds context envelope
      (.failed (context.fail ErrorCode.noPad "ack without remote address" [.string "unknown"] []))
  | padless {address : String} : envelope.addresses.client = some address → AckEnds context envelope
      (.failed (context.fail ErrorCode.noPad "no pending key to activate" [.string address] []))

variable (resolve : Identity → Option ConnectionId) (context : Context) (envelope : Envelope)
  (channels : Channels)

theorem requestEnds_processRequest {name : String} (named : requestedPair? envelope = some name)
    (nonempty : name ≠ "") :
    RequestEnds context envelope (processRequest resolve context envelope channels).1 := by
  have other : requestedPair? envelope ≠ some "" := by
    rw [named]
    exact fun same => nonempty (Option.some.inj same)
  rw [processRequest, named]
  cases envelope.identity.bind resolve with
  | none => exact .unexpected _ other
  | some id =>
    simp only []
    rcases channels.joinEncrypted (.name name) id with ⟨error | _, joined⟩
    · cases error with
      | notEncrypted => exact .plaintext other
      | _ => exact .unexpected _ other
    · simp only []
      rcases joined.newPendingPad (.name name) with ⟨error | pad, after⟩
      · exact .padless error other
      · exact .granted pad other

theorem requestEnds_attempt :
    RequestEnds context envelope
      (Pipeline.attempt context (requestHandler resolve) envelope channels).1 := by
  simp only [Pipeline.attempt, requestHandler, validateRequest]
  cases named : requestedPair? envelope with
  | none => exact .misread named
  | some name =>
    by_cases empty : name = ""
    · subst empty
      exact .nameless named
    · simp only [Context.ensure, empty, ne_eq, not_false_eq_true, decide_true, ↓reduceIte]
      exact requestEnds_processRequest resolve context envelope channels named empty

theorem ackEnds_attempt :
    AckEnds context envelope (Pipeline.attempt context ackHandler envelope channels).1 := by
  simp only [Pipeline.attempt, ackHandler, processAck]
  cases addressed : envelope.addresses.client with
  | none => exact .unaddressed addressed
  | some address =>
    simp only []
    rcases channels.activatePad (.name address) with ⟨_ | _, after⟩
    · exact .padless addressed
    · exact .activated

end PadExchange

/-- Whether a response says what failed, and says it in full exactly under a condition. -/
def Response.Describes (response : Response) (complete : Prop) : Prop :=
  ∃ descriptor, response.error = some descriptor ∧ (descriptor.IsFilled ↔ complete)

theorem Response.describes_failure {code : ErrorCode} {parameters : List Json} (payload : List Json)
    {complete : Prop} (filled : (code ∈ Templates.namingCodes → parameters ≠ []) ↔ complete) :
    (Response.failure (Templates.builtIn.describe code parameters) payload).Describes complete :=
  ⟨_, rfl, Templates.isFilled_describe_iff.trans filled⟩

/-- Whether a handler means a failure to be what it is: it answers, or refuses. -/
def Outcome.isDecided : Outcome Response → Bool
  | .done _ => true
  | .failed (.refused _) => true
  | .failed (.unexpected _) => false
  | .brokeOff _ => false

section

variable {envelope : Envelope} {outcome : Outcome Response}

/-- A request that fails is described in full unless the pair that it asks for has no name. -/
theorem PadExchange.RequestEnds.describes
    (ends : RequestEnds ⟨Templates.builtIn.describe⟩ envelope outcome)
    (failed : (Pipeline.answer ⟨Templates.builtIn.describe⟩ outcome).isFailure = true) :
    (Pipeline.answer ⟨Templates.builtIn.describe⟩ outcome).Describes
      (requestedPair? envelope ≠ some "") := by
  cases ends with
  | granted => cases failed
  | misread none =>
    exact Response.describes_failure [] (iff_of_true (fun _ => List.cons_ne_nil _ _) (by simp [none]))
  | nameless same =>
    exact Response.describes_failure [] (iff_of_false (fun full => full (by decide) rfl) (by simp [same]))
  | plaintext other | padless _ other | unexpected _ other =>
    exact Response.describes_failure []
      (iff_of_true (fun naming => absurd naming (by decide)) other)

/-- A confirmation that fails is described in full. -/
theorem PadExchange.AckEnds.describes
    (ends : AckEnds ⟨Templates.builtIn.describe⟩ envelope outcome)
    (failed : (Pipeline.answer ⟨Templates.builtIn.describe⟩ outcome).isFailure = true) :
    (Pipeline.answer ⟨Templates.builtIn.describe⟩ outcome).Describes True := by
  cases ends with
  | activated => cases failed
  | unaddressed | padless =>
    exact Response.describes_failure [] (iff_of_true (fun _ => List.cons_ne_nil _ _) trivial)

/-- A failure that a handler does not decide is an unexpected error, which needs no parameters. -/
theorem Outcome.describes (undecided : outcome.isDecided = false) :
    (Pipeline.answer ⟨Templates.builtIn.describe⟩ outcome).Describes True := by
  have full := Response.describes_failure []
    (iff_of_true (fun naming => absurd naming (by decide)) trivial :
      (ErrorCode.unexpectedError ∈ Templates.namingCodes → ([] : List Json) ≠ []) ↔ True)
  cases outcome with
  | done => cases undecided
  | failed fault =>
    cases fault with
    | refused => cases undecided
    | unexpected => exact full
  | brokeOff => exact full

end

namespace Dispatcher

variable {S : Type u} {H : Type v} {σ : Type w} {dispatcher : Dispatcher S H σ} {bytes : Bytes}

/-- What the gateway answers without a handler is described in full unless the text says nothing. -/
theorem describes_of_declined {pool : Pool} {id : Identity} {addresses : Addresses}
    (standard : dispatcher.describe = Templates.builtIn.describe)
    (declined : dispatcher.accepted? pool id addresses bytes = none) (directory : Directory S H)
    (rest : σ) :
    (dispatcher.answer pool directory id addresses bytes rest).1.Describes
      (dispatcher.codec.decode bytes ≠ .error (.malformedBody none)) := by
  rw [accepted?] at declined
  rw [answer]
  cases decoding : dispatcher.codec.decode bytes with
  | error error =>
    simp only [failure, standard]
    refine Response.describes_failure [] ?_
    cases Codec.reports_of_decode decoding with
    | noMessage | noType =>
      exact iff_of_true (fun naming => absurd naming (by decide)) (by simp)
    | unknownType | malformedOf => exact iff_of_true (fun _ => List.cons_ne_nil _ _) (by simp)
    | malformed => exact iff_of_false (fun full => full (by decide) rfl) (fun other => other rfl)
  | ok decoded =>
    simp only [decoding] at declined ⊢
    split_ifs with admitted
    · have closed : pool.closed = true := by
        simpa only [admitted, true_and, ite_eq_right_iff, reduceCtorEq, imp_false,
          Bool.not_eq_false] using declined
      rw [run_of_closed closed, failure, standard]
      exact Response.describes_failure []
        (iff_of_true (fun naming => absurd naming (by decide)) (by simp))
    · rw [failure, standard]
      exact Response.describes_failure [] (iff_of_true (fun _ => List.cons_ne_nil _ _) (by simp))

end Dispatcher

/-- A type that nothing serves is unknown. -/
theorem Application.serve_of_unserved (application : Application α)
    (resolve : Identity → Option ConnectionId) {envelope : Envelope}
    (unserved : application.services.get? envelope.kind = none) (floor : Floor α) :
    (application.pipeline resolve).serve envelope floor =
      ((Response.failure (application.describe ErrorCode.unknownMessage [.string envelope.kind])
        []).withId envelope.id, floor) := by
  simp only [Pipeline.serve, Pipeline.outcome, get?_pipeline, unserved, Option.map_none]
  rfl

namespace Hub

variable {α : Type} {application : Application α}

namespace Call

variable {call : Call α}

/-- Whether a call is decided by a handler of the application. -/
def isDecided (application : Application α) (call : Call α) : Bool :=
  match application.services.get? call.envelope.kind with
  | some (.application handler) =>
    (Pipeline.attempt ⟨application.describe⟩ handler call.envelope call.floor.own).1.isDecided
  | _ => false

/-- Whether a call asks for a pad of the pair without a name. -/
def AsksNameless (application : Application α) (call : Call α) : Prop :=
  application.services.get? call.envelope.kind = some .padRequest ∧
    PadExchange.requestedPair? call.envelope = some ""

/-- What the services answer is described in full unless a handler decides it or it is asked for a pad of the
pair without a name. -/
theorem describes_served (standard : application.describe = Templates.builtIn.describe)
    (own : call.isDecided application = false)
    (failed : (call.served application).1.isFailure = true) :
    (call.served application).1.Describes (¬ call.AsksNameless application) := by
  simp only [isDecided] at own
  simp only [AsksNameless]
  cases asked : application.services.get? call.envelope.kind with
  | none =>
    rw [served, application.serve_of_unserved _ asked, standard]
    exact Response.describes_failure [] (iff_of_true (fun _ => List.cons_ne_nil _ _) (by simp))
  | some service =>
    rw [served, application.serve_of_service _ asked, standard] at failed ⊢
    cases service with
    | application handler =>
      simp only [asked, standard] at own
      rw [Service.attempt_application]
      simp only [Option.some.injEq, reduceCtorEq, false_and, not_false_eq_true]
      exact Outcome.describes own
    | padRequest =>
      have ends := PadExchange.requestEnds_attempt (resolve call.shared)
        ⟨Templates.builtIn.describe⟩ call.envelope call.floor.channels
      rw [Service.handler, Service.attempt_onChannels] at failed ⊢
      simp only [true_and]
      exact ends.describes failed
    | padAck =>
      have ends := PadExchange.ackEnds_attempt ⟨Templates.builtIn.describe⟩ call.envelope
        call.floor.channels
      rw [Service.handler, Service.attempt_onChannels] at failed ⊢
      simp only [Option.some.injEq, reduceCtorEq, false_and, not_false_eq_true]
      exact ends.describes failed

end Call

section

variable {hub after : Hub α} {bytes : Bytes} {caller : Caller}

/-- Bytes that lead to a call are answered by the services, and told the identity. -/
theorem error_respond_of_call {call : Call α}
    (called : hub.call? application bytes caller = some call) :
    (hub.respond application bytes caller).1.error = (call.served application).1.error ∧
      (hub.respond application bytes caller).1.isFailure = (call.served application).1.isFailure := by
  cases caller <;>
    · obtain ⟨⟨directory, envelope⟩, accepted, rfl⟩ := Option.map_eq_some_iff.mp called
      have answered := Dispatcher.answered_of_call accepted
      exact ⟨congrArg (fun answer => answer.1.error) answered,
        congrArg (fun answer => answer.1.isFailure) answered⟩

theorem decode_of_call {call : Call α} (called : hub.call? application bytes caller = some call) :
    ∃ decoded, application.codec.decode bytes = .ok decoded := by
  cases caller <;>
    · obtain ⟨⟨directory, envelope⟩, accepted, rfl⟩ := Option.map_eq_some_iff.mp called
      obtain ⟨-, decoded, decodes, -⟩ := Dispatcher.stamped_of_call accepted
      exact ⟨decoded, decodes⟩

theorem describes_respond_of_uncalled (standard : application.describe = Templates.builtIn.describe)
    (uncalled : hub.call? application bytes caller = none) :
    (hub.respond application bytes caller).1.Describes
      (application.codec.decode bytes ≠ .error (.malformedBody none)) := by
  cases caller <;>
    exact Dispatcher.describes_of_declined standard
      (Option.map_eq_none_iff.mp (Option.map_eq_none_iff.mp uncalled)) _ _

/-- A failure that no handler of the application decides is described in full by the built-in templates,
unless the text says nothing or asks for a pad of the pair without a name. -/
theorem own_failures_are_described_in_full_iff {frame : Frame}
    (standard : application.describe = Templates.builtIn.describe)
    (read : hub.read frame caller = (some bytes, after)) {response : Response}
    (answered : (hub.receive application frame caller).1.response = some response)
    (failed : response.isFailure = true)
    (own : ∀ call, after.call? application bytes caller = some call →
      call.isDecided application = false) :
    ∃ descriptor, response.error = some descriptor ∧
      (descriptor.IsFilled ↔
        application.codec.decode bytes ≠ .error (.malformedBody none) ∧
          ∀ call, after.call? application bytes caller = some call →
            ¬ call.AsksNameless application) := by
  have responded := (receive_of_read read application).1
  obtain rfl := Option.some.inj (responded.symm.trans answered)
  cases called : after.call? application bytes caller with
  | none =>
    obtain ⟨descriptor, found, filled⟩ := describes_respond_of_uncalled standard called
    exact ⟨descriptor, found, by simpa using filled⟩
  | some call =>
    obtain ⟨error, failure⟩ := error_respond_of_call called
    obtain ⟨descriptor, found, filled⟩ :=
      Call.describes_served standard (own call called) (failure.symm.trans failed)
    obtain ⟨decoded, decodes⟩ := decode_of_call called
    exact ⟨descriptor, error.trans found, by simpa [decodes] using filled⟩

end

namespace Describing

/-- A connection whose client has an address. -/
def client : ConnectionId := ⟨1, 1⟩

/-- The client has arrived. -/
def hub : Hub Unit :=
  Lobby.fresh.run Lobby.onWeb
    [.move (.accept client ⟨⟨none, some "addr:1"⟩, false⟩ 4), .greet (.socket .raw client)]

/-- The client confirms a pad that it never got. -/
def strayAck : Frame := .text "\x7b\"type\":\"OTP_NEW_KEY_ACK\",\"id\":1\x7d"

/-- The client sends something that is no text of a value. -/
def garbled : Frame := .text "\x7bnot json"

/-- The client asks for a pad of the pair without a name. -/
def namelessRequest : Frame := .text "\x7b\"type\":\"OTP_NEW_KEY_REQUEST\",\"id\":2,\"key\":\"\"\x7d"

/-- What the client is told of a failure. -/
def told (frame : Frame) : Option Descriptor :=
  (hub.receive Lobby.onWeb frame (.socket .raw client)).1.response.bind Response.error

theorem kind_of_strayAck {call : Call Unit}
    (called : hub.call? Lobby.onWeb strayAck.bytes (.socket .raw client) = some call) :
    call.envelope.kind = PadExchange.ackKind := by
  have kind : (hub.call? Lobby.onWeb strayAck.bytes (.socket .raw client)).map
      (fun call => call.envelope.kind) = some PadExchange.ackKind := by decide +kernel
  rw [called] at kind
  exact Option.some.inj kind

end Describing

open Describing

/-- Who confirms a pad that was never made is told the address that there is none for. -/
theorem stray_confirmation_is_described_in_full :
    ∃ descriptor, told strayAck = some descriptor ∧ descriptor.IsFilled := by
  have failed : (hub.receive Lobby.onWeb strayAck (.socket .raw client)).1.response.map
      Response.isFailure = some true := by decide +kernel
  obtain ⟨response, answered, failure⟩ := Option.map_eq_some_iff.mp failed
  obtain ⟨descriptor, found, filled⟩ :=
    own_failures_are_described_in_full_iff rfl rfl answered failure fun call called => by
      rw [Call.isDecided, kind_of_strayAck called]
      rfl
  refine ⟨descriptor, by rw [told, answered]; exact found, filled.mpr ⟨?_, fun call called => ?_⟩⟩
  · intro garbled
    have decoded : (Lobby.onWeb.codec.decode strayAck.bytes).toBool = true := by decide +kernel
    rw [garbled] at decoded
    cases decoded
  · rintro ⟨request, -⟩
    rw [kind_of_strayAck called] at request
    cases request

/-- A text that says nothing and a request without a pair are malformed, and the client is not told what
is. -/
theorem garbled_text_and_nameless_request_leave_placeholder :
    Lobby.onWeb.codec.decode garbled.bytes = .error (.malformedBody none) ∧
    (∃ descriptor, told garbled = some descriptor ∧ ¬ descriptor.IsFilled) ∧
    (∃ call, hub.call? Lobby.onWeb namelessRequest.bytes (.socket .raw client) = some call ∧
      Lobby.onWeb.services.get? call.envelope.kind = some .padRequest) ∧
    ∃ descriptor, told namelessRequest = some descriptor ∧ ¬ descriptor.IsFilled := by
  have unfilled {frame : Frame} (described : (told frame).map (fun descriptor =>
      (0 ∈ Descriptor.slots descriptor.template.toList : Bool) && descriptor.parameters.isEmpty) =
        some true) :
      ∃ descriptor, told frame = some descriptor ∧ ¬ descriptor.IsFilled := by
    obtain ⟨descriptor, found, blank⟩ := Option.map_eq_some_iff.mp described
    simp only [Bool.and_eq_true, decide_eq_true_eq, List.isEmpty_iff] at blank
    refine ⟨descriptor, found, fun filled => ?_⟩
    have above := Descriptor.isFilled_iff_slots.mp filled 0 blank.1
    rw [blank.2] at above
    cases above
  refine ⟨rfl, unfilled (by decide +kernel), ?_, unfilled (by decide +kernel)⟩
  have kind : (hub.call? Lobby.onWeb namelessRequest.bytes (.socket .raw client)).map
      (fun call => call.envelope.kind) = some PadExchange.requestKind := by decide +kernel
  obtain ⟨call, called, asked⟩ := Option.map_eq_some_iff.mp kind
  exact ⟨call, called, by rw [asked]; rfl⟩

end Hub

end Gateway
