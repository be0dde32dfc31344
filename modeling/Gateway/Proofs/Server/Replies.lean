import Gateway.Lobby
import Gateway.Proofs.Server.Endings
import Gateway.Proofs.Server.Ledger

/-! # One reply to each message

Whatever the sessions of a server do in between, a client that stays connected receives one reply to
each of its messages, in order, as long as nothing is pushed to it and no pad is in use for it. Nothing
can hold its replies up for good: every step that changes what waits between the client and the gateway
brings something nearer to the client, unless the client sends more, and there is always a step of its
session or of its own that does so until nothing waits any more.
-/

namespace Gateway

namespace Backlog

/-- How far what waits is from the client, a message in the inbox being the farthest. -/
def weight (backlog : Backlog) : Nat :=
  4 * backlog.inbox.length + 3 * backlog.waiting.toList.length + 2 * backlog.queue.length +
    backlog.outbox.length

theorem eq_empty_of_weight {backlog : Backlog} (settled : backlog.weight = 0) : backlog = .empty := by
  obtain ⟨inbox, waiting, queue, outbox⟩ := backlog
  simp only [weight, Nat.add_eq_zero_iff, Nat.mul_eq_zero, List.length_eq_zero_iff,
    Option.toList_eq_nil_iff, Nat.reduceEqDiff, false_or] at settled
  obtain ⟨⟨⟨rfl, rfl⟩, rfl⟩, rfl⟩ := settled
  rfl

/-- The step that brings something nearer to the client. -/
def due (id : ConnectionId) : Backlog → Server.Step
  | ⟨_, _, _, _ :: _⟩ => .hear id
  | ⟨_, _, _ :: _, []⟩ => .write id
  | ⟨_, some _, [], []⟩ => .resume id
  | ⟨_, none, [], []⟩ => .read id

end Backlog

/-- Unless the client sends a message, an exchange brings something nearer to it. -/
theorem Exchange.lighter {id : ConnectionId} {channels : Channels} {before after : Backlog}
    {utterance : Option Utterance} (exchange : Exchange id channels before utterance after)
    (opened : channels.isClosed id = false) (listens : ∀ message, utterance ≠ some (.sent message)) :
    after = before ∨ after.weight < before.weight := by
  cases exchange with
  | still => exact .inl rfl
  | sent message => exact absurd rfl (listens message)
  | refused _ shut | dropped _ shut => exact absurd (opened.symm.trans shut) Bool.false_ne_true
  | released shut => exact absurd (opened.symm.trans shut) Bool.false_ne_true
  | queued next | stalled next | ponged next | passed next =>
    have fewer := congrArg List.length next
    refine .inr ?_
    simp only [Backlog.weight, List.length_append, List.length_cons, List.length_nil,
      Option.toList] at fewer ⊢
    omega
  | resumed waits =>
    refine .inr ?_
    simp only [Backlog.weight, waits, List.length_append, List.length_cons, List.length_nil,
      Option.toList]
    omega
  | wrote waits | heard waits =>
    have fewer := congrArg List.length waits
    refine .inr ?_
    simp only [Backlog.weight, List.length_append, List.length_cons, List.length_nil] at fewer ⊢
    omega

namespace Server

variable {α : Type} {application : Application α} {start before after server : Server α}
  {actions asked : List Hub.Action} {completed : Option ConnectionId} {done : List ConnectionId}
  {said : Option (ConnectionId × Utterance)} {id : ConnectionId} {dialogue : List Utterance}

/-- Whether a step sends a frame to a connection, or a pad, without being asked by a message. -/
def Step.isPush : Step → Bool
  | .around action => action.isPush
  | _ => false

/-- Whether the client of a connection sends a message in a step. -/
def Step.isArrival (id : ConnectionId) : Step → Bool
  | .arrive other _ => other = id
  | _ => false

/-- No pad is in use for a connection, if pads apply to it. -/
def IsBare (server : Server α) (id : ConnectionId) : Prop :=
  ∀ session, server.session? id = some session → session.endpoint.isPadded = true →
    server.hub.padFor? id = none

/-- Nothing is pushed in a run, and no pad comes to be used for a connection. -/
structure IsQuiet (application : Application α) (server : Server α) (id : ConnectionId)
    (steps : List Step) : Prop where
  pushless : ∀ step ∈ steps, step.isPush = false
  bare : ∀ first, first <+: steps → (server.run application first).IsBare id

namespace IsQuiet

theorem here {steps : List Step} (quiet : server.IsQuiet application id steps) :
    server.IsBare id := quiet.bare [] List.nil_prefix

theorem append {first second : List Step}
    (quiet : server.IsQuiet application id (first ++ second)) :
    server.IsQuiet application id first ∧
      (server.run application first).IsQuiet application id second := by
  refine ⟨⟨fun step member => quiet.pushless step (List.mem_append_left second member),
    fun before within => quiet.bare before (within.trans (List.prefix_append first second))⟩,
    ⟨fun step member => quiet.pushless step (List.mem_append_right first member),
      fun before within => ?_⟩⟩
  rw [← run_append]
  exact quiet.bare (first ++ before) ((List.prefix_append_right_inj first).mpr within)

theorem cons {step : Step} {rest : List Step}
    (quiet : server.IsQuiet application id (step :: rest)) :
    step.isPush = false ∧ (server.perform application step).IsQuiet application id rest := by
  obtain ⟨first, later⟩ : server.IsQuiet application id [step] ∧ _ := append quiet
  exact ⟨first.pushless step List.mem_cons_self, later⟩

end IsQuiet

/-- What a step asks on behalf of a session pushes nothing if that holds for every session. -/
theorem pushless_elim {found : Option Session} {asked : Session → List Hub.Action}
    (pushless : ∀ session, ∀ action ∈ asked session, action.isPush = false) :
    ∀ action ∈ found.elim [] asked, action.isPush = false := by
  cases found with
  | none => exact List.forall_mem_nil _
  | some session => exact pushless session

/-- What a step asks of the hub pushes nothing unless the step does. -/
theorem asks_of_pushless (server : Server α) {step : Step} (pushless : step.isPush = false) :
    ∀ action ∈ server.asks step, action.isPush = false := by
  cases step with
  | around action =>
    rw [asks]
    split_ifs
    · exact fun other member => List.mem_singleton.mp member ▸ pushless
    · exact List.forall_mem_nil _
  | completeHandshake id =>
    refine pushless_elim fun session => ?_
    split_ifs <;> simp [Hub.Action.isPush]
  | read id =>
    refine pushless_elim fun session => ?_
    split
    next message _ _ _ => cases message <;> simp [asksToReact, Hub.Action.isPush]
    next => exact List.forall_mem_nil _
  | write id =>
    rw [asks]
    split <;> simp [Hub.Action.isPush]
  | resume id =>
    rw [asks]
    split
    next session connection _ _ =>
      cases session.waiting with
      | none => exact List.forall_mem_nil _
      | some frame => cases (connection.resume frame).1 <;> simp [Hub.Action.isPush]
    next => exact List.forall_mem_nil _
  | leaveIfDue id =>
    refine pushless_elim fun session => ?_
    split_ifs <;> simp [Hub.Action.isPush]
  | release id =>
    refine pushless_elim fun session => ?_
    split_ifs
    · simp [Hub.Action.isPush, or_imp, forall_and]
    · exact List.forall_mem_nil _
  | accept _ _ _ | failHandshake _ | arrive _ _ | hear _ | stop _ =>
    exact List.forall_mem_nil _

/-- No step but its own makes a client send a message. -/
theorem listens_of_step (application : Application α) (server : Server α) {step : Step}
    (listens : step.isArrival id = false) (message : ClientMessage) :
    (server.says? application step).bind (utteranceOf id) ≠ some (.sent message) := by
  cases step with
  | arrive other message' =>
    have differs : other ≠ id := of_decide_eq_false listens
    rw [says?]
    split_ifs <;> simp [utteranceOf, differs]
  | read other =>
    rw [says?]
    cases server.session? other with
    | none => exact (Option.some_ne_none _).symm
    | some session =>
      rw [Option.bind_some]
      split <;> simp [utteranceOf]
  | hear other =>
    rw [says?]
    cases (server.hear other).1 <;> simp [utteranceOf]
  | _ => exact (Option.some_ne_none _).symm

/-- A session stays at its endpoint. -/
theorem Turn.endpoint (turn : Turn application before actions completed said after)
    {session : Session} (known : before.session? id = some session) :
    ∃ next, after.session? id = some next ∧ next.endpoint = session.endpoint := by
  have passage := turn.passage id
  rw [status?_eq known, Session.status] at passage
  generalize session.endpoint = endpoint, session.stage = stage at passage ⊢
  obtain ⟨stage', status⟩ : ∃ stage', after.status? id = some (endpoint, stage') := by
    generalize after.status? id = status at passage ⊢
    generalize Hub.Action.callsOf id actions = calls at passage
    generalize decide (completed = some id) = joins at passage
    cases passage <;> exact ⟨_, rfl⟩
  obtain ⟨next, known', same⟩ := Option.map_eq_some_iff.mp status
  exact ⟨next, known', congrArg Prod.fst same⟩

/-- What is known of a server after a run in which nothing disturbs the dialogue with a client. -/
structure Conversation (start : Server α) (asked : List Hub.Action) (done : List ConnectionId)
    (server : Server α) (id : ConnectionId) (dialogue : List Utterance) : Prop where
  account : Account start asked done server
  attended : server.hub.channels.Attended
  permanent : server.hub.channels.pads.active.ttl = none
  ledger : Ledger id server.hub.channels (server.backlog id) dialogue
  named : server.Named id dialogue

/-- The part of the client of a connection in what is said. -/
def dialogueOf (id : ConnectionId) (said : List (ConnectionId × Utterance)) : List Utterance :=
  said.filterMap (utteranceOf id)

theorem dialogueOf_append (id : ConnectionId) (first second : List (ConnectionId × Utterance)) :
    dialogueOf id (first ++ second) = dialogueOf id first ++ dialogueOf id second :=
  List.filterMap_append

theorem dialogueOf_toList (id : ConnectionId) (said : Option (ConnectionId × Utterance)) :
    dialogueOf id said.toList = (said.bind (utteranceOf id)).toList := by
  cases said with
  | none => rfl
  | some entry =>
    rw [dialogueOf, Option.toList_some, Option.bind_some, List.filterMap_cons, List.filterMap_nil]
    cases utteranceOf id entry <;> rfl

/-- The session of a connection that is open is running. -/
theorem Account.running (account : Account start asked done server)
    (there : (server.hub.channels.connection? id).isSome = true)
    (opened : server.hub.channels.isClosed id = false) :
    ∃ session, server.session? id = some session ∧ session.stage = .running := by
  have history := account.history id
  have known := account.opened id
  have shut := fun endpoint completed => account.shut endpoint id (of_decide_eq_true completed)
  rw [Channels.isClosed_eq] at opened
  rw [there] at known opened
  rw [← known] at history shut
  obtain ⟨endpoint, status⟩ : ∃ endpoint, server.status? id = some (endpoint, .running) := by
    generalize server.status? id = status at history shut ⊢
    generalize Hub.Action.callsOf id asked = calls at history
    cases history with
    | running endpoint => exact ⟨endpoint, rfl⟩
    | leaving endpoint => simp [shut endpoint rfl (.inl rfl)] at opened
    | ended endpoint => simp [shut endpoint rfl (.inr rfl)] at opened
  obtain ⟨session, found, same⟩ := Option.map_eq_some_iff.mp status
  exact ⟨session, found, congrArg Prod.snd same⟩

namespace Conversation

theorem exchange (conversation : Conversation start asked done before id dialogue)
    (turn : Turn application before actions completed said after)
    (pushless : ∀ action ∈ actions, action.isPush = false) (bare : before.IsBare id)
    (bare' : after.IsBare id) :
    Exchange id after.hub.channels (before.backlog id) (said.bind (utteranceOf id))
      (after.backlog id) := by
  refine turn.exchange conversation.account conversation.attended conversation.permanent pushless
    fun session known padded => ⟨bare session known padded, ?_⟩
  obtain ⟨next, known', endpoint⟩ := turn.endpoint known
  exact bare' next known' (endpoint ▸ padded)

theorem turn (conversation : Conversation start asked done before id dialogue)
    (turn : Turn application before actions completed said after)
    (pushless : ∀ action ∈ actions, action.isPush = false) (bare : before.IsBare id)
    (bare' : after.IsBare id) :
    Conversation start (asked ++ actions) (done ++ completed.toList) after id
      (dialogue ++ (said.bind (utteranceOf id)).toList) where
  account := conversation.account.turn turn
  attended := turn.attended conversation.account conversation.attended
  permanent := by
    rw [turn.hub]
    exact Hub.channels_run
      (fun channels move => (Channels.ttl_active_perform channels move).trans) application
      conversation.permanent actions
  ledger := by
    refine conversation.ledger.exchange (conversation.exchange turn pushless bare bare')
      (fun absent => ?_) (turn.isClosed conversation.account)
    have opened := turn.opened id
    rw [absent, Option.isSome_none, eq_comm, Bool.or_eq_false_iff] at opened
    exact Option.isNone_iff_eq_none.mp (Option.isSome_eq_false_iff.mp opened.1)
  named := conversation.named.turn turn conversation.account
    fun absent => (conversation.ledger.silent absent).1

/-- Every step of a quiet run keeps what is known. -/
theorem step (conversation : Conversation start asked done before id dialogue) {step : Step}
    {rest : List Step} (quiet : before.IsQuiet application id (step :: rest)) :
    ∃ asked done, Conversation start asked done (before.perform application step) id
      (dialogue ++ ((before.says? application step).bind (utteranceOf id)).toList) := by
  obtain ⟨pushless, later⟩ := quiet.cons
  exact ⟨_, _, conversation.turn (turn_perform application before conversation.account.fresh step)
    (before.asks_of_pushless pushless) quiet.here later.here⟩

/-- So does every quiet run. -/
theorem run (conversation : Conversation start asked done before id dialogue) {steps : List Step}
    (quiet : before.IsQuiet application id steps) :
    ∃ asked done, Conversation start asked done (before.run application steps) id
      (dialogue ++ dialogueOf id (before.said application steps)) := by
  induction steps generalizing before asked done dialogue with
  | nil =>
    rw [Server.said, dialogueOf, List.filterMap_nil, List.append_nil]
    exact ⟨asked, done, conversation⟩
  | cons step rest ih =>
    obtain ⟨_, _, conversation'⟩ := conversation.step quiet
    rw [Server.said, dialogueOf_append, dialogueOf_toList, ← List.append_assoc]
    exact ih conversation' quiet.cons.2

/-- Every answer is the response that dispatching gives for the message at some time of the run. -/
theorem dispatched (conversation : Conversation start asked done before id dialogue)
    {steps : List Step} (quiet : before.IsQuiet application id steps) {answer : Answer}
    (member : answer ∈ answersIn (dialogueOf id (before.said application steps))) :
    ∃ first, first <+: steps ∧ answer.response =
      ((before.run application first).hub.dispatchBytes application answer.endpoint id
        answer.message.bytes).1 := by
  induction steps generalizing before asked done dialogue with
  | nil => cases member
  | cons step rest ih =>
    rw [Server.said, dialogueOf_append, dialogueOf_toList, answersIn_append, List.mem_append] at member
    obtain now | after := member
    · have turn := turn_perform application before conversation.account.fresh step
      exact ⟨[], List.nil_prefix, (turn.answered (mem_answersIn_toList.mp now)).2⟩
    · obtain ⟨_, _, conversation'⟩ := conversation.step quiet
      obtain ⟨first, within, dispatched⟩ := ih conversation' quiet.cons.2 after
      exact ⟨step :: first, (List.prefix_cons_inj step).mpr within, dispatched⟩

theorem of_initial (settings : HubSettings) (subscribers : List Subscriber) (mint : Mint)
    (entropy : Entropy) (own : α) (listeners : Table String Listener) (id : ConnectionId) :
    let server := initial (Hub.initial settings subscribers mint entropy own) listeners
    Conversation server [] [] server id [] where
  account := .of_initial settings subscribers mint entropy own listeners
  attended := fun _ _ found => nomatch found
  permanent := rfl
  ledger := ⟨fun _ => ⟨rfl, rfl⟩, rfl, fun _ => rfl, .refl _⟩
  named := fun _ inUse => by obtain status | status := inUse <;> cases status

/-- A connection that is open at the end of a run was not closed before. -/
theorem isClosed_of_run (conversation : Conversation start asked done before id dialogue)
    {steps : List Step} (quiet : before.IsQuiet application id steps)
    (opened : (before.run application steps).hub.channels.isClosed id = false) :
    before.hub.channels.isClosed id = false := by
  induction steps generalizing before asked done dialogue with
  | nil => exact opened
  | cons step rest ih =>
    have turn := turn_perform application before conversation.account.fresh step
    obtain ⟨_, _, conversation'⟩ := conversation.step quiet
    have opened' := ih conversation' quiet.cons.2 opened
    rw [Bool.eq_false_iff] at opened' ⊢
    exact fun closed => opened' (turn.isClosed conversation.account closed)

/-- If anything waits on an open connection, its session is running. -/
theorem running (conversation : Conversation start asked done server id dialogue)
    (opened : server.hub.channels.isClosed id = false) (busy : server.backlog id ≠ .empty) :
    ∃ session, server.session? id = some session ∧ session.stage = .running := by
  refine conversation.account.running ?_ opened
  rw [Option.isSome_iff_ne_none]
  exact fun absent => busy (conversation.ledger.silent absent).2

/-- The step that is due changes what waits. -/
theorem backlog_perform_due (application : Application α)
    (conversation : Conversation start asked done server id dialogue)
    (opened : server.hub.channels.isClosed id = false) (busy : server.backlog id ≠ .empty) :
    (server.perform application ((server.backlog id).due id)).backlog id ≠ server.backlog id := by
  obtain ⟨session, known, running⟩ := conversation.running opened busy
  have waits := backlog_of_known known
  cases outbox : session.outbox with
  | cons message rest =>
    have due : (server.backlog id).due id = .hear id := by
      rw [waits, Session.backlog, outbox, Backlog.due]
    have heard : (server.perform application (.hear id)).backlog id =
        Session.backlog { session with outbox := rest } (server.hub.channels.queueOf id) := by
      simp only [perform, hear, known, outbox]
      exact backlog_setSession_self known _
    rw [due, heard, waits]
    intro same
    simpa [Session.backlog, outbox] using congrArg Backlog.outbox same
  | nil =>
    cases queue : server.hub.channels.queueOf id with
    | cons frame rest =>
      have due : (server.backlog id).due id = .write id := by
        rw [waits, Session.backlog, outbox, queue, Backlog.due]
      have there : (server.asking application [.move (.take id)]).session? id = some session := known
      rw [due, perform, write_eq application known queue, backlog_setSession_self there, waits]
      intro same
      simpa [Session.backlog, Session.post] using congrArg Backlog.outbox same
    | nil =>
      cases waiting : session.waiting with
      | some frame =>
        have due : (server.backlog id).due id = .resume id := by
          rw [waits, Session.backlog, outbox, queue, waiting, Backlog.due]
        obtain ⟨connection, found⟩ := conversation.account.connection known running
        obtain ⟨known', -⟩ := session?_resume known waiting found
          (conversation.account.resumes found queue frame)
        rw [due, perform, backlog_of_known known', waits]
        intro same
        simpa [Session.backlog, waiting] using congrArg Backlog.waiting same
      | none =>
        have due : (server.backlog id).due id = .read id := by
          rw [waits, Session.backlog, outbox, queue, waiting, Backlog.due]
        have reading : session.isReading = true := by simp [Session.isReading, running, waiting]
        cases inbox : session.inbox with
        | nil =>
          rw [waits, Session.backlog, outbox, queue, waiting, inbox] at busy
          exact absurd rfl busy
        | cons message rest =>
          obtain ⟨next, known', -, -, left, -⟩ := session?_read application known reading inbox
          rw [due, perform, backlog_of_known known', waits]
          intro same
          simpa [Session.backlog, left, inbox] using congrArg Backlog.inbox same

/-- Unless the client sends a message, a step leaves what waits as it is or brings some of it nearer. -/
theorem lighter_perform (conversation : Conversation start asked done server id dialogue)
    {step : Step} {rest : List Step} (quiet : server.IsQuiet application id (step :: rest))
    (listens : step.isArrival id = false)
    (opened : (server.perform application step).hub.channels.isClosed id = false) :
    (server.perform application step).backlog id = server.backlog id ∨
      ((server.perform application step).backlog id).weight < (server.backlog id).weight := by
  obtain ⟨pushless, later⟩ := quiet.cons
  have turn := turn_perform application server conversation.account.fresh step
  exact (conversation.exchange turn (server.asks_of_pushless pushless) quiet.here later.here).lighter
    opened (server.listens_of_step application listens)

/-- While the client sends nothing, what waits gets no farther from it. -/
theorem weight_run (conversation : Conversation start asked done server id dialogue)
    {steps : List Step} (quiet : server.IsQuiet application id steps)
    (listens : ∀ step ∈ steps, step.isArrival id = false)
    (opened : (server.run application steps).hub.channels.isClosed id = false) :
    ((server.run application steps).backlog id).weight ≤ (server.backlog id).weight := by
  induction steps generalizing server asked done dialogue with
  | nil => exact Nat.le_refl _
  | cons step rest ih =>
    obtain ⟨_, _, conversation'⟩ := conversation.step quiet
    have later := quiet.cons.2
    have remaining := ih conversation' later
      (fun other member => listens other (List.mem_cons_of_mem _ member)) opened
    obtain same | lighter := conversation.lighter_perform quiet (listens step List.mem_cons_self)
      (conversation'.isClosed_of_run later opened)
    · rw [← same]
      exact remaining
    · exact Nat.le_of_lt (Nat.lt_of_le_of_lt remaining lighter)

/-- If the step that is due is taken at some time, something has come nearer to the client by then. -/
theorem weight_run_of_due (conversation : Conversation start asked done server id dialogue)
    {steps : List Step} (quiet : server.IsQuiet application id steps)
    (listens : ∀ step ∈ steps, step.isArrival id = false)
    (opened : (server.run application steps).hub.channels.isClosed id = false)
    (busy : server.backlog id ≠ .empty) (due : (server.backlog id).due id ∈ steps) :
    ((server.run application steps).backlog id).weight < (server.backlog id).weight := by
  induction steps generalizing server asked done dialogue with
  | nil => cases due
  | cons step rest ih =>
    obtain ⟨_, _, conversation'⟩ := conversation.step quiet
    have later := quiet.cons.2
    have listens' : ∀ other ∈ rest, other.isArrival id = false :=
      fun other member => listens other (List.mem_cons_of_mem _ member)
    have opened' := conversation'.isClosed_of_run later opened
    have remaining := conversation'.weight_run later listens' opened
    obtain same | lighter := conversation.lighter_perform quiet (listens step List.mem_cons_self)
      opened'
    · obtain now | after := List.mem_cons.mp due
      · have changed := conversation.backlog_perform_due application
          (conversation.isClosed_of_run quiet opened) busy
        rw [now] at changed
        exact absurd same changed
      · rw [← same] at busy after ⊢
        exact ih conversation' later listens' opened busy after
    · exact Nat.lt_of_le_of_lt remaining lighter

end Conversation

/-- A client and its session take part in a round: the client sends nothing and reads what is written
for it, and the session has a turn at everything that it does for the client. -/
structure IsRound (id : ConnectionId) (round : List Step) : Prop where
  listens : ∀ step ∈ round, step.isArrival id = false
  reads : .read id ∈ round
  resumes : .resume id ∈ round
  writes : .write id ∈ round
  hears : .hear id ∈ round

theorem IsRound.due {round : List Step} (complete : IsRound id round) (backlog : Backlog) :
    backlog.due id ∈ round := by
  rw [Backlog.due.eq_def]
  split
  · exact complete.hears
  · exact complete.writes
  · exact complete.resumes
  · exact complete.reads

/-- Every round brings something nearer to the client. -/
theorem Conversation.weight_rounds
    (conversation : Conversation start asked done server id dialogue) {rounds : List (List Step)}
    (quiet : server.IsQuiet application id rounds.flatten)
    (complete : ∀ round ∈ rounds, IsRound id round)
    (opened : (server.run application rounds.flatten).hub.channels.isClosed id = false) :
    ((server.run application rounds.flatten).backlog id).weight ≤
      (server.backlog id).weight - rounds.length := by
  induction rounds generalizing server asked done dialogue with
  | nil => exact Nat.le_refl _
  | cons round rest ih =>
    rw [List.flatten_cons] at quiet opened ⊢
    rw [run_append] at opened ⊢
    obtain ⟨first, later⟩ := quiet.append
    obtain ⟨_, _, conversation'⟩ := conversation.run first
    have here := complete round List.mem_cons_self
    have opened' := conversation'.isClosed_of_run later opened
    have remaining := ih conversation' later
      (fun other member => complete other (List.mem_cons_of_mem _ member)) opened
    have nearer := conversation.weight_run first here.listens opened'
    rw [List.length_cons]
    by_cases settled : server.backlog id = .empty
    · have nothing : (server.backlog id).weight = 0 := by rw [settled]; rfl
      omega
    · have lighter := conversation.weight_run_of_due first here.listens opened' settled
        (here.due (server.backlog id))
      omega

theorem bytes_reply (answer : Answer) : answer.reply.bytes = utf8 answer.response.wire := by
  rw [Answer.reply, Hub.replyTo]
  split_ifs <;> rfl

/-- Over a WebSocket a reply is of the same kind as the message. -/
theorem isText_reply {answer : Answer} (webSocket : answer.endpoint.transport = .websocket) :
    answer.reply.isText = answer.message.isText := by
  rw [Answer.reply, Hub.replyTo, webSocket]
  cases answer.message.isText <;> rfl

/-- In every run of a server with any listeners, take a connection to which nothing is pushed and for
which no pad comes to be used. Whatever the clients send, however their sessions take turns and whatever
becomes of the connection, its client receives nothing but replies to its own messages, in their order.
While it stays connected, its session has answered its messages up to those that wait to be read, each
with the response that dispatching gave for it, under the identity of the connection, and it has
received all replies up to those on their way. So once it has received as many frames as it sent
messages, they are the replies, one to each message, and over a WebSocket of the kind of the message. It
has received as many after as many rounds as what waited weighs, whatever else happens in them. -/
theorem messages_are_answered_in_order (settings : HubSettings) (subscribers : List Subscriber)
    (mint : Mint) (entropy : Entropy) (own : α) (application : Application α)
    (listeners : Table String Listener) (id : ConnectionId) (talk : List Step)
    (rounds : List (List Step))
    (quiet : (initial (Hub.initial settings subscribers mint entropy own) listeners).IsQuiet
      application id (talk ++ rounds.flatten))
    (complete : ∀ round ∈ rounds, IsRound id round) :
    let start := initial (Hub.initial settings subscribers mint entropy own) listeners
    let steps := talk ++ rounds.flatten
    let server := start.run application steps
    let dialogue := dialogueOf id (start.said application steps)
    (framesIn dialogue).Sublist (repliesIn dialogue) ∧
      (server.hub.channels.isActive id = true → ∃ session identity,
        server.session? id = some session ∧
          server.hub.identity? (.socket session.endpoint id) = some identity ∧
          (∀ answer ∈ answersIn dialogue, answer.endpoint = session.endpoint ∧
            answer.response.identity = some identity ∧
            ∃ first, first <+: steps ∧ answer.response =
              ((start.run application first).hub.dispatchBytes application session.endpoint id
                answer.message.bytes).1) ∧
          messagesIn dialogue =
            (answersIn dialogue).map Answer.message ++ (server.backlog id).unread ∧
          repliesIn dialogue = framesIn dialogue ++ (server.backlog id).underway ∧
          ((framesIn dialogue).length = (messagesIn dialogue).length →
            messagesIn dialogue = (answersIn dialogue).map Answer.message ∧
              framesIn dialogue = repliesIn dialogue ∧
              (framesIn dialogue).map Frame.bytes =
                (answersIn dialogue).map (fun answer => utf8 answer.response.wire) ∧
              (session.endpoint.transport = .websocket →
                (framesIn dialogue).map Frame.isText = (messagesIn dialogue).map Frame.isText)) ∧
          (((start.run application talk).backlog id).weight ≤ rounds.length →
            (framesIn dialogue).length = (messagesIn dialogue).length)) := by
  intro start steps server dialogue
  have initially := Conversation.of_initial settings subscribers mint entropy own listeners id
  obtain ⟨asked, done, conversation⟩ : ∃ asked done,
      Conversation start asked done server id dialogue := initially.run quiet
  obtain ⟨-, read, replied, own⟩ := conversation.ledger
  refine ⟨(List.sublist_append_left _ _).trans own, fun active => ?_⟩
  have there : (server.hub.channels.connection? id).isSome = true :=
    Channels.isSome_of_isActive active
  have opened : server.hub.channels.isClosed id = false := by
    rw [Channels.isClosed_eq, active, Bool.not_true, Bool.and_false]
  have replied := replied opened
  obtain ⟨session, known, running⟩ := conversation.account.running there opened
  have inUse : server.InUse session.endpoint id := .inl (by
    rw [status?_eq known, Session.status, running])
  obtain ⟨identity, identified, named⟩ := conversation.named session.endpoint inUse
  have answered := congrArg List.length read
  have received := congrArg List.length replied
  simp only [repliesIn, List.length_append, List.length_map] at answered received
  refine ⟨session, identity, known, identified, fun answer member => ?_, read, replied,
    fun all => ?_, fun enough => ?_⟩
  · obtain ⟨here, identified⟩ := named answer member
    obtain ⟨first, within, dispatched⟩ := initially.dispatched quiet member
    exact ⟨here, identified, first, within, here ▸ dispatched⟩
  · have nothing : (server.backlog id).unread = [] := List.length_eq_zero_iff.mp (by omega)
    have settled : (server.backlog id).underway = [] := List.length_eq_zero_iff.mp (by omega)
    rw [nothing, List.append_nil] at read
    rw [settled, List.append_nil] at replied
    refine ⟨read, replied.symm, ?_, fun webSocket => ?_⟩
    · rw [← replied, repliesIn, List.map_map]
      exact List.map_congr_left fun answer _ => bytes_reply answer
    · rw [← replied, read, repliesIn, List.map_map, List.map_map]
      exact List.map_congr_left fun answer member =>
        isText_reply ((named answer member).1 ▸ webSocket)
  · obtain ⟨first, later⟩ := quiet.append
    obtain ⟨_, _, before⟩ := initially.run first
    have ran : server = (start.run application talk).run application rounds.flatten :=
      run_append ..
    have light : (server.backlog id).weight ≤
        ((start.run application talk).backlog id).weight - rounds.length := by
      rw [ran] at opened ⊢
      exact before.weight_rounds later complete opened
    have settled : server.backlog id = .empty := Backlog.eq_empty_of_weight (by omega)
    rw [settled] at answered received
    simp only [Backlog.unread, Backlog.underway, Backlog.empty] at answered received
    simpa using received.symm.trans answered.symm

namespace Answering

def visitor : ConnectionId := ⟨1, 1⟩

def neighbour : ConnectionId := ⟨2, 2⟩

/-- A listener at a padded endpoint, with room for one frame on each of its connections. -/
def gateway : Server Unit :=
  initial (Hub.initial ⟨16, 60, 30, none, 1⟩ [] .initial ⟨fun _ => 0, 0⟩ ())
    (.ofList [("pads", ⟨.padWebsocket, "addr:0", false, 2, 1, .listening, 0⟩)])

def greeting : Frame := .text "\x7b\"type\":\"HELLO\",\"id\":1\x7d"

/-- The beginning of a message. -/
def scrap : Frame := .binary [0x7b]

def talk : List Step :=
  [.accept "pads" "addr:1" visitor, .accept "pads" "addr:2" neighbour, .completeHandshake visitor,
    .completeHandshake neighbour, .arrive visitor (.frame greeting), .arrive neighbour (.frame scrap),
    .arrive visitor (.frame scrap), .read neighbour, .read visitor]

def round : List Step :=
  [.read visitor, .write neighbour, .resume visitor, .write visitor, .hear visitor]

def rounds : List (List Step) := .replicate 6 round

def spoken : List Utterance :=
  dialogueOf visitor (gateway.said Lobby.application (talk ++ rounds.flatten))

theorem quiet : gateway.IsQuiet Lobby.application visitor (talk ++ rounds.flatten) where
  pushless := by decide +kernel
  bare first within session known padded := by
    have bare : ∀ count ∈ List.range 40, (gateway.run Lobby.application
        ((talk ++ rounds.flatten).take count)).hub.padFor? visitor = none := by decide +kernel
    have fits : first.length ≤ 39 := within.length_le
    rw [List.prefix_iff_eq_take.mp within]
    exact bare first.length (List.mem_range.mpr (by omega))

theorem complete (round : List Step) (member : round ∈ rounds) : IsRound visitor round := by
  rw [List.eq_of_mem_replicate member]
  exact ⟨by decide, by simp [Answering.round], by simp [Answering.round],
    by simp [Answering.round], by simp [Answering.round]⟩

end Answering

section

open Answering

/-- A client receives the replies to a greeting and to a scrap of a message, in text and in bytes. -/
theorem visitor_receives_its_replies :
    gateway.IsQuiet Lobby.application visitor (talk ++ rounds.flatten) ∧
      (∀ round ∈ rounds, IsRound visitor round) ∧
      (gateway.run Lobby.application (talk ++ rounds.flatten)).hub.channels.isActive visitor = true ∧
      ((gateway.run Lobby.application talk).backlog visitor).weight = rounds.length ∧
      messagesIn spoken = [greeting, scrap] ∧ (framesIn spoken).length = 2 ∧
      framesIn spoken = repliesIn spoken ∧
      (framesIn spoken).map Frame.isText = [true, false] := by
  have active : (gateway.run Lobby.application
      (talk ++ rounds.flatten)).hub.channels.isActive visitor = true := by decide +kernel
  have weight : ((gateway.run Lobby.application talk).backlog visitor).weight = rounds.length := by
    decide +kernel
  have sent : messagesIn spoken = [greeting, scrap] := by decide +kernel
  have endpoint : ((gateway.run Lobby.application (talk ++ rounds.flatten)).session? visitor).map
      Session.endpoint = some .padWebsocket := by decide +kernel
  obtain ⟨-, replied⟩ := messages_are_answered_in_order ⟨16, 60, 30, none, 1⟩ [] .initial
    ⟨fun _ => 0, 0⟩ () Lobby.application _ visitor talk rounds quiet complete
  rw [← gateway, ← spoken] at replied
  obtain ⟨session, identity, known, -, -, -, -, all, enough⟩ := replied active
  have webSocket : session.endpoint = .padWebsocket := by
    rw [known] at endpoint
    exact Option.some.inj endpoint
  have received : (framesIn spoken).length = (messagesIn spoken).length :=
    enough (Nat.le_of_eq weight)
  obtain ⟨-, replies, -, kinds⟩ := all received
  refine ⟨quiet, complete, active, weight, sent, received.trans (congrArg List.length sent),
    replies, ?_⟩
  exact (kinds (congrArg Endpoint.transport webSocket)).trans (congrArg (List.map Frame.isText) sent)

end

end Server

end Gateway
