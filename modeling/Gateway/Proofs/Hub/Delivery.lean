import Gateway.Proofs.Hub.Masking
import Gateway.Proofs.Hub.Traces

/-! # What is delivered to a connection

Frames go onto a connection in answer to its messages, or they are pushed to it. Whatever else happens
to a gateway leaves the frames that wait on the connection alone, and while it is active someone
receives them. Where no pad is in use, a message is answered with the response that dispatching gives
for it, under the identity of the connection: the reply goes to the end of the queue or waits for room,
and nothing but a closed connection refuses it.
-/

namespace Gateway

namespace Channels

/-- Someone receives the frames of every connection that is active. -/
def Attended (channels : Channels) : Prop :=
  ∀ id connection, channels.connection? id = some connection → connection.active = true →
    connection.receiving = true

namespace Attended

variable {channels after : Channels}

theorem fades (attended : channels.Attended) (same : channels.SameFixtures after)
    (fades : channels.Fades after) : after.Attended := by
  intro id connection found active
  have kept := same id
  rw [found, Option.map_some] at kept
  obtain ⟨former, stored, fixture⟩ := Option.map_eq_some_iff.mp kept.symm
  have receiving : former.receiving = connection.receiving :=
    congrArg (fun parts => parts.2.2) fixture
  have still : channels.isActive id = true :=
    fades.active id (by rw [isActive, found, Option.any_some, active])
  rw [isActive, stored, Option.any_some] at still
  exact receiving ▸ attended id former stored still

theorem accept (attended : channels.Attended) (id : ConnectionId) (info : ConnectionInfo)
    (buffer : Nat) : (channels.perform (.accept id info buffer)).Attended := by
  intro other connection found active
  by_cases mine : other = id
  · subst mine
    cases known : channels.connection? other with
    | none =>
      rw [connection?_accept_self known] at found
      obtain rfl := Option.some.inj found
      rfl
    | some former =>
      rw [perform, known] at found
      exact attended other connection found active
  · rw [connection?_accept_of_ne channels mine] at found
    exact attended other connection found active

theorem dropReceiver (attended : channels.Attended) {id : ConnectionId}
    (shut : channels.isActive id = false) : (channels.dropReceiver id).Attended := by
  intro other connection found active
  rw [connection?_dropReceiver] at found
  split_ifs at found with mine
  · subst mine
    obtain ⟨former, stored, rfl⟩ := Option.map_eq_some_iff.mp found
    rw [isActive, stored, Option.any_some] at shut
    exact absurd (shut.symm.trans active) Bool.false_ne_true
  · exact attended other connection found active

/-- A connection that takes no frames is closed. -/
theorem isClosed (attended : channels.Attended) {id : ConnectionId} {connection : Connection}
    (found : channels.connection? id = some connection)
    (shut : connection.active = false ∨ connection.receiving = false) :
    channels.isClosed id = true := by
  have inactive : connection.active = false := by
    cases active : connection.active with
    | false => rfl
    | true => simp [active, attended id connection found active] at shut
  rw [isClosed_eq, isActive, found, Option.any_some, inactive]
  rfl

end Attended

end Channels

namespace Hub

variable {α : Type} {hub : Hub α}

theorem attended_run (application : Application α) {actions : List Action}
    (attended : hub.channels.Attended)
    (lasting : ∀ action ∈ actions, action.isLasting = true ∧ action.isNew = false) :
    (hub.run application actions).channels.Attended := by
  induction actions generalizing hub with
  | nil => exact attended
  | cons action rest ih =>
    obtain ⟨lasts, old⟩ := lasting action List.mem_cons_self
    exact ih (attended.fades (hub.sameFixtures_perform application lasts)
      (hub.fades_perform application old)) fun other member =>
        lasting other (List.mem_cons_of_mem _ member)

/-- Whether an action sends a frame to a connection, or a pad, without being asked by a message. -/
def Action.isPush : Action → Bool
  | .move (.send _ _) | .move (.offer _ _) | .move (.sendPad _ _) | .move (.sendClear _ _)
  | .move (.issuePad _ _) | .sendTo _ (.socket _ _) | .sendErrorTo _ _ (.socket _ _)
  | .push _ _ _ => true
  | _ => false

/-- Whether an action leaves the frames that wait on a connection alone, whatever it does elsewhere. -/
def Action.spares (id : ConnectionId) : Action → Bool
  | .move made => made.spares id
  | .receive _ (.socket _ other) | .sendTo _ (.socket _ other)
  | .sendErrorTo _ _ (.socket _ other) => other ≠ id
  | .push _ _ _ => false
  | _ => true

/-- Whatever a socket sends is answered on its own connection. -/
theorem carries_receive (permanent : hub.channels.pads.active.ttl = none)
    (application : Application α) (frame : Frame) (endpoint : Endpoint) (id : ConnectionId) :
    ∃ wire, Carries hub id wire (hub.receive application frame (.socket endpoint id)).1.delivery
      (hub.receive application frame (.socket endpoint id)).2 := by
  rcases reads : hub.read frame (.socket endpoint id) with ⟨_ | bytes, arrived⟩
  · have arriving := twin_read permanent frame (.socket endpoint id)
    simp only [read] at reads arriving
    simp only [receive, message]
    split_ifs at reads arriving ⊢ with padded
    · rcases unmasked : hub.unmask id frame with ⟨error | plain, masked⟩ <;>
        simp only [unmasked, Prod.mk.injEq, reduceCtorEq, false_and] at reads arriving ⊢
      exact ⟨_, (masked.carries_send arriving.permanent endpoint id _).since arriving.sameQueues⟩
    · cases reads
  · exact ⟨_, (carries_response application permanent reads).1⟩

theorem queueOf_perform_of_spares (application : Application α)
    (permanent : hub.channels.pads.active.ttl = none) {id : ConnectionId} {action : Action}
    (spares : action.spares id = true) :
    (hub.perform application action).channels.queueOf id = hub.channels.queueOf id := by
  -- Whatever goes onto another connection leaves this one as it is.
  have elsewhere : ∀ {other : ConnectionId} {wire : Frame} {delivery : Delivery} {after : Hub α},
      Carries hub other wire delivery after → decide (other ≠ id) = true →
        after.channels.queueOf id = hub.channels.queueOf id := fun carries differs =>
    (carries.queues id).trans (if_neg fun same => of_decide_eq_true differs same.1.symm)
  cases action with
  | move made => exact Channels.queueOf_perform_of_spares hub.channels spares
  | greet caller =>
    cases caller with
    | socket endpoint other =>
      simp only [perform, greet, connect]
      split_ifs
      · rw [registerClear]
        split
        · exact Channels.SameQueues.of_connections rfl id
        · refine (Channels.sameQueues_join _ _ _ _ id).trans ?_
          exact Channels.SameQueues.of_connections rfl id
      · exact Channels.SameQueues.of_connections rfl id
    | web _ | inProcess _ _ _ => exact Channels.SameQueues.of_connections rfl id
  | receive frame caller =>
    cases caller with
    | socket endpoint other =>
      obtain ⟨wire, carries⟩ := carries_receive permanent application frame endpoint other
      exact elsewhere carries spares
    | web session =>
      exact (hub.served_respond application frame.bytes (.web session)).sameQueues id
    | inProcess session handle addresses =>
      exact (hub.served_respond application frame.bytes
        (.inProcess session handle addresses)).sameQueues id
  | sendTo frame caller =>
    cases caller with
    | socket endpoint other => exact elsewhere (hub.carries_send permanent endpoint other _) spares
    | web _ | inProcess _ _ _ => rfl
  | sendErrorTo code parameters caller =>
    cases caller with
    | socket endpoint other => exact elsewhere (hub.carries_send permanent endpoint other _) spares
    | web _ | inProcess _ _ _ => rfl
  | push endpoint key frame => cases spares
  | process envelope =>
    cases envelope with
    | none => rfl
    | some envelope =>
      exact (Call.reaches_served application ⟨hub.desks.shared, envelope, hub.floor⟩).sameQueues id
  | dismiss caller => cases caller <;> exact Channels.SameQueues.of_connections rfl id
  | find key desk => cases desk <;> exact Channels.SameQueues.of_connections rfl id
  | mint | closePool | sweepWeb | sweepInProcess => exact Channels.SameQueues.of_connections rfl id

theorem queueOf_run_of_spares (application : Application α)
    (permanent : hub.channels.pads.active.ttl = none) {id : ConnectionId} {actions : List Action}
    (spares : ∀ action ∈ actions, action.spares id = true) :
    (hub.run application actions).channels.queueOf id = hub.channels.queueOf id := by
  induction actions generalizing hub with
  | nil => rfl
  | cons action rest ih =>
    have after : (hub.perform application action).channels.pads.active.ttl = none :=
      channels_run (fun channels move => (Channels.ttl_active_perform channels move).trans)
        application permanent [action]
    refine (ih after fun other member => spares other (List.mem_cons_of_mem _ member)).trans ?_
    exact queueOf_perform_of_spares application permanent (spares action List.mem_cons_self)

/-- Where no pad is in use, a message is answered with the response that dispatching gives for it. -/
theorem message_of_bare (permanent : hub.channels.pads.active.ttl = none)
    (application : Application α) {endpoint : Endpoint} {id : ConnectionId} {frame : Frame}
    (bare : endpoint.isPadded = true → hub.padFor? id = none ∧
      (hub.message application endpoint id frame).2.padFor? id = none) :
    hub.message application endpoint id frame =
      let dispatched := hub.dispatchBytes application endpoint id frame.bytes
      let sent := dispatched.2.sendPlain id (replyTo endpoint frame.isText dispatched.1)
      (⟨some dispatched.1, sent.1⟩, sent.2) := by
  cases padded : endpoint.isPadded with
  | false =>
    simp only [message, answerBytes, send, padded, Bool.false_eq_true, ↓reduceIte]
  | true =>
    obtain ⟨before, after⟩ := bare padded
    refine message_of_none permanent application padded before ?_
    have permanent' : (hub.dispatchBytes application endpoint id
        frame.bytes).2.channels.pads.active.ttl = none :=
      (hub.served_respond application frame.bytes (.socket endpoint id)).served.steady.active.trans
        permanent
    have answered : hub.message application endpoint id frame =
        hub.answerBytes application endpoint id frame.isText frame.bytes := by
      rw [message, if_pos padded, unmask_of_none permanent before]
    rw [answered] at after
    exact (padFor?_send _ permanent' endpoint id _ id).symm.trans after

/-- What became of a reply. -/
inductive Replied (before : Hub α) (id : ConnectionId) (reply : Frame) (after : Hub α) :
    Delivery → Prop
  | queued (queue : after.channels.queueOf id = before.channels.queueOf id ++ [reply]) :
    Replied before id reply after .sent
  | stalled (queue : after.channels.queueOf id = before.channels.queueOf id) :
    Replied before id reply after (.stalled reply)
  | refused {error : SendError} (queue : after.channels.queueOf id = before.channels.queueOf id)
    (shut : ∀ connection, after.channels.connection? id = some connection →
      connection.active = false ∨ connection.receiving = false) :
    Replied before id reply after (.refused error)

theorem replied_message (permanent : hub.channels.pads.active.ttl = none)
    (application : Application α) {endpoint : Endpoint} {id : ConnectionId} {frame : Frame}
    (bare : endpoint.isPadded = true → hub.padFor? id = none ∧
      (hub.message application endpoint id frame).2.padFor? id = none) :
    Replied hub id
      (replyTo endpoint frame.isText
        (hub.dispatchBytes application endpoint id frame.bytes).1)
      (hub.message application endpoint id frame).2
      (hub.message application endpoint id frame).1.delivery := by
  have same := (hub.served_respond application frame.bytes (.socket endpoint id)).sameQueues
  rw [message_of_bare permanent application bare]
  rcases dispatched : hub.dispatchBytes application endpoint id frame.bytes with ⟨response, served⟩
  have stays : served.channels.queueOf id = hub.channels.queueOf id :=
    (congrArg (fun result => result.2.channels.queueOf id) dispatched).symm.trans (same id)
  have carries := served.carries_sendPlain id (replyTo endpoint frame.isText response)
  have queue := carries.queues id
  rcases sent : served.sendPlain id (replyTo endpoint frame.isText response) with
    ⟨_ | error | waiting, after⟩ <;> simp only [sent, stays] at queue carries ⊢
  · exact .queued (by simpa using queue)
  · refine .refused (by simpa using queue) fun connection found => ?_
    have refused : (served.channels.send id (replyTo endpoint frame.isText response)).1 =
        .refused error := congrArg Prod.fst sent
    rw [← congrArg (fun result => result.2.channels) sent] at found
    exact Channels.shut_of_refused refused found
  · obtain rfl := carries.waiting waiting rfl
    exact .stalled (by simpa using queue)

/-- Whoever is connected is known. -/
theorem identity?_greet (hub : Hub α) (endpoint : Endpoint) (id : ConnectionId) :
    ∃ identity, (hub.greet (.socket endpoint id)).2.identity? (.socket endpoint id) =
      some identity := by
  have connected := congrArg Reception.directory (hub.socketReception_connect endpoint id)
  exact ⟨_, (congrArg (Directory.identity? · id) connected).trans
    (Directory.identity?_connect _ hub.commons.mint hub.now id id)⟩

/-- The response to a message carries the identity of the connection that it came from. -/
theorem identity_dispatchBytes (application : Application α) {endpoint : Endpoint}
    {id : ConnectionId} {identity : Identity}
    (known : hub.identity? (.socket endpoint id) = some identity) (bytes : Bytes) :
    (hub.dispatchBytes application endpoint id bytes).1.identity = some identity := by
  refine (Dispatcher.identity_dispatch ..).trans ?_
  have here : (hub.socketReception endpoint.desk).directory.identity? id = some identity := known
  rw [identify_eq]
  exact congrArg (fun arrived => some arrived.1) (Reception.identify_of_known here id)

theorem identity?_run {desk : SocketDesk} {visits : List (Visit ConnectionId)} {id : ConnectionId}
    {application : Application α} {actions : List Action} {identity : Identity}
    (records : (hub.socketReception desk).Records visits)
    (known : (hub.desks.get desk).identity? id = some identity)
    (stays : ∀ action ∈ actions, ∀ endpoint, action.socket? = some (endpoint, id) →
      ∃ frame, action = .receive frame (.socket endpoint id)) :
    ((hub.run application actions).desks.get desk).identity? id = some identity := by
  induction actions generalizing hub visits with
  | nil => exact known
  | cons action rest ih =>
    exact ih (records_perform records action)
      (identity?_perform records known (stays action List.mem_cons_self))
      fun other member => stays other (List.mem_cons_of_mem _ member)

end Hub

end Gateway
