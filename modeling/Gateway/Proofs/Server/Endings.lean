import Gateway.Proofs.Server.Sessions

/-! # How sessions end

A session that has stopped reading is over after one more step. A running session stops reading when
it is told to, unless a reply of it waits for room; then it writes what is queued, which makes room. So
whatever ends a session, be it its client, its connection or its listener, it can give back its place and
all that is held of it, provided that its client takes what is written. A step that writes stands for a
client that does; where a client takes nothing, no such step is made.
-/

namespace Gateway

open Hub.Action

namespace Server

variable {α : Type} {application : Application α} {start server : Server α}
  {asked : List Hub.Action} {done : List ConnectionId} {id : ConnectionId} {session : Session}

/-- Whether a step is one that a session makes by itself. -/
def Step.isOf (id : ConnectionId) : Step → Bool
  | .read other | .write other | .resume other | .leaveIfDue other | .release other => other = id
  | _ => false

/-- Whether a session can come to its end by its own steps, where its client takes what they write. -/
def CanEnd (application : Application α) (server : Server α) (id : ConnectionId) : Prop :=
  ∃ steps : List Step, (∀ step ∈ steps, step.isOf id = true) ∧
    ∃ endpoint, (server.run application steps).status? id = some (endpoint, .over)

theorem CanEnd.of_step (step : Step) (own : step.isOf id = true)
    (ends : (server.perform application step).CanEnd application id) :
    server.CanEnd application id := by
  obtain ⟨steps, others, ended⟩ := ends
  refine ⟨step :: steps, fun other member => ?_, ended⟩
  obtain rfl | later := List.mem_cons.mp member
  · exact own
  · exact others other later

/-- A session that has stopped reading is cleaned up in one step. -/
theorem canEnd_of_leaving (known : server.session? id = some session)
    (leaving : session.stage = .leaving) : server.CanEnd application id := by
  have turn := turn_release application server id
  have calls : callsOf id (server.asks (.release id)) = [.dismiss (.socket session.endpoint id)] := by
    have written : callsOf id (List.replicate (server.queued id) (.move (.take id)) ++
        [.move (.dropReceiver id)]) = [] := by
      refine callsOf_eq_nil fun action member => ?_
      obtain taken | last := List.mem_append.mp member
      · rw [List.eq_of_mem_replicate taken]
        rfl
      · rw [List.mem_singleton.mp last]
        rfl
    rw [callsOf] at written
    simp [asks, known, leaving, callsOf, isCallOf, written]
  have passage := turn.passage id
  rw [calls, status?_eq known, Session.status, leaving] at passage
  refine ⟨[.release id], by simp [Step.isOf], session.endpoint, ?_⟩
  change (server.release id).status? id = _
  generalize (server.release id).status? id = status at passage ⊢
  cases passage with
  | ends _ => rfl

/-- A session that reads leaves if it is due to. -/
theorem canEnd_of_due (known : server.session? id = some session)
    (reading : session.isReading = true)
    (due : server.hub.channels.isActive id = false ∨ server.isStopped session.listener = true) :
    server.CanEnd application id := by
  have leaves : server.leaveIfDue id = server.leave id := by
    rw [leaveIfDue, known]
    obtain inactive | stopped := due
    · simp [inactive]
    · simp [stopped]
  have left : (server.perform application (.leaveIfDue id)).session? id =
      some { session with stage := .leaving } := by
    rw [perform, leaves, leave, known]
    simp only [reading, ↓reduceIte]
    exact session?_setSession_self known _
  exact .of_step (.leaveIfDue id) (decide_eq_true rfl) (canEnd_of_leaving left rfl)

/-- Whether a running session is to end: its connection is closed, its listener has stopped, or its
client has hung up. -/
def IsDoomed (server : Server α) (id : ConnectionId) (session : Session) : Prop :=
  server.hub.channels.isActive id = false ∨ server.isStopped session.listener = true ∨
    .close ∈ session.inbox ∨ .broken ∈ session.inbox

theorem read_eq (application : Application α) (known : server.session? id = some session)
    (reading : session.isReading = true) {message : ClientMessage} {rest : List ClientMessage}
    (next : session.inbox = message :: rest) :
    server.read application id =
      (server.setSession id { session with inbox := rest }).react application id
        { session with inbox := rest } message := by
  rw [read, known]
  simp only [reading, next]

/-- A turn of a session that goes on leaves it doomed if it was, unless it has read of it. -/
theorem IsDoomed.turn {after : Server α} {actions : List Hub.Action}
    {said : Option (ConnectionId × Utterance)} {next : Session}
    (doomed : server.IsDoomed id session) (turn : Turn application server actions none said after)
    (stopped : after.listeners = server.listeners) (listener : next.listener = session.listener)
    (unread : .close ∈ session.inbox ∨ .broken ∈ session.inbox →
      .close ∈ next.inbox ∨ .broken ∈ next.inbox) :
    after.IsDoomed id next := by
  refine doomed.imp (fun inactive => ?_) (Or.imp (fun stops => ?_) unread)
  · rw [Bool.eq_false_iff] at inactive ⊢
    exact fun active => inactive ((turn.active active).resolve_right nofun)
  · rw [isStopped, stopped, listener]
    exact stops

/-- A frame has stopped waiting for room by the time the queue is empty. -/
theorem Account.resumes (account : Account start asked done server) {connection : Connection}
    (found : server.hub.channels.connection? id = some connection)
    (empty : server.hub.channels.queueOf id = []) (frame : Frame) :
    (connection.resume frame).1 = true := by
  rw [Channels.queueOf, found, Option.map_some, Option.getD_some] at empty
  have room : connection.hasRoom = true := by
    rw [Connection.hasRoom, empty]
    exact decide_eq_true (account.roomy id connection found)
  simp only [Connection.resume, room, ↓reduceIte]
  split_ifs <;> rfl

/-- A frame that waits for room is queued once there is some. -/
theorem session?_resume {frame : Frame} {connection : Connection}
    (known : server.session? id = some session) (waiting : session.waiting = some frame)
    (found : server.hub.channels.connection? id = some connection)
    (resumes : (connection.resume frame).1 = true) :
    (server.resume id).session? id = some { session with waiting := none } ∧
      (server.resume id).listeners = server.listeners := by
  rw [resume, known, found]
  simp only [waiting]
  rcases resumed : connection.resume frame with ⟨_ | _, after⟩
  · rw [resumed] at resumes
    cases resumes
  · exact ⟨session?_setSession_self known _, rfl⟩

/-- A session that waits for room gets to the point where it reads again. -/
theorem canEnd_of_reading {left : List ClientMessage}
    (reads : ∀ {server : Server α} {asked : List Hub.Action} {done : List ConnectionId}
      {session : Session}, Account start asked done server → server.session? id = some session →
        session.isReading = true → session.inbox = left → server.IsDoomed id session →
          server.CanEnd application id)
    (account : Account start asked done server) (known : server.session? id = some session)
    (running : session.stage = .running) (inbox : session.inbox = left)
    (doomed : server.IsDoomed id session) : server.CanEnd application id := by
  induction waits : server.hub.channels.queueOf id generalizing server session asked done with
  | nil =>
    cases waiting : session.waiting with
    | none => exact reads account known (by simp [Session.isReading, running, waiting]) inbox doomed
    | some frame =>
      obtain ⟨connection, found⟩ := account.connection known running
      have resumes := account.resumes found waits frame
      have turn := turn_resume application server id
      obtain ⟨known', listeners⟩ := session?_resume known waiting found resumes
      have reading : Session.isReading { session with waiting := none } = true := by
        simp [Session.isReading, running]
      exact .of_step (.resume id) (decide_eq_true rfl) (reads (account.turn turn) known' reading inbox
        (doomed.turn turn listeners rfl fun hung => hung))
  | cons frame rest ih =>
    have turn := turn_write application server id
    have written := write_eq application known waits
    have known' : (server.write id).session? id = some (session.post (.frame frame)) := by
      rw [written]
      exact session?_setSession_self
        (show (server.asking application _).session? id = some session from known) _
    have left : (server.write id).hub.channels.queueOf id = rest := by
      rw [written]
      refine ((server.hub.channels.receive_eq id).2 id).trans ?_
      rw [if_pos rfl, waits, List.tail_cons]
    have listeners : (server.write id).listeners = server.listeners := by rw [written]; rfl
    exact .of_step (.write id) (decide_eq_true rfl) (ih (account.turn turn) known' running inbox
      (doomed.turn turn listeners rfl fun hung => hung) left)

/-- A session that reads goes on with the rest of its inbox, unless its client has hung up. -/
theorem session?_read (application : Application α) (known : server.session? id = some session)
    (reading : session.isReading = true) {message : ClientMessage} {rest : List ClientMessage}
    (inbox : session.inbox = message :: rest) :
    ∃ next, (server.read application id).session? id = some next ∧
      (server.read application id).listeners = server.listeners ∧
      next.listener = session.listener ∧ next.inbox = rest ∧
      next.stage = if message = .close ∨ message = .broken then .leaving else .running := by
  have read := read_eq application known reading inbox
  have running := (Session.running_of_reading reading).1
  have unread := session?_setSession_self known { session with inbox := rest }
  have left : ∃ next, ((server.setSession id { session with inbox := rest }).leave id).session? id =
      some next ∧
      ((server.setSession id { session with inbox := rest }).leave id).listeners = server.listeners ∧
      next.listener = session.listener ∧ next.inbox = rest ∧ next.stage = .leaving := by
    have reading : Session.isReading { session with inbox := rest } = true := reading
    rw [leave, unread]
    simp only [reading, ↓reduceIte]
    exact ⟨_, session?_setSession_self unread _, rfl, rfl, rfl, rfl⟩
  rw [read]
  cases message with
  | frame frame =>
    refine ⟨_, session?_setSession_self unread _, rfl, ?_⟩
    rw [Session.hold.eq_def]
    split <;> exact ⟨rfl, rfl, running⟩
  | ping payload => exact ⟨_, session?_setSession_self unread _, rfl, rfl, rfl, running⟩
  | pong payload => exact ⟨_, unread, rfl, rfl, rfl, running⟩
  | close | broken => exact left

/-- A running session that is to end can end: it sends the replies that it owes, reads what its client
has sent, and leaves. -/
theorem canEnd_of_doomed (account : Account start asked done server)
    (known : server.session? id = some session) (running : session.stage = .running)
    (doomed : server.IsDoomed id session) : server.CanEnd application id := by
  induction inbox : session.inbox generalizing server session asked done with
  | nil =>
    refine canEnd_of_reading (fun _ known reading inbox doomed => ?_) account known running inbox
      doomed
    refine canEnd_of_due known reading ?_
    simpa [IsDoomed, inbox] using doomed
  | cons message rest ih =>
    refine canEnd_of_reading (fun {server _ _ session} account known reading inbox doomed => ?_)
      account known running inbox doomed
    obtain ⟨next, known', listeners, listener, left, stage⟩ :=
      session?_read application known reading inbox
    split_ifs at stage with last
    · exact .of_step (.read id) (decide_eq_true rfl) (canEnd_of_leaving known' stage)
    · have turn := turn_read application server id
      refine .of_step (.read id) (decide_eq_true rfl) (ih (account.turn turn) known' stage
        (doomed.turn turn listeners listener ?_) left)
      rw [not_or] at last
      rw [inbox, left]
      simp [Ne.symm last.1, Ne.symm last.2]

/-- A client that is accepted begins a session, which takes a place of the listener. -/
theorem accepted {name client : String} {id : ConnectionId}
    (accepts : (server.accept name client id).1 = true) :
    (∃ session, (server.accept name client id).2.session? id = some session ∧
      session.listener = name ∧ session.stage = .handshake) ∧
      (server.accept name client id).2.activeCount name = server.activeCount name + 1 := by
  rw [accept] at accepts ⊢
  cases listens : server.listeners.get? name with
  | none =>
    rw [listens] at accepts
    cases accepts
  | some listener =>
    simp only [listens] at accepts ⊢
    split_ifs at accepts ⊢
    constructor
    · refine ⟨listener.welcome name client, ?_, rfl, rfl⟩
      exact (Table.get?_insert ..).trans (if_pos rfl)
    · simp only [activeCount, Table.get?_modify, if_pos, listens, Option.map_some, Option.getD_some]
      rfl

namespace Account

/-- A listener that listens turns clients away exactly while all its places are taken. -/
theorem accept_eq_false_iff (account : Account start asked done server) {name : String}
    (listens : (server.listeners.get? name).map Listener.stage = some .listening)
    (client : String) (id : ConnectionId) :
    (server.accept name client id).1 = false ↔
      (start.listeners.get? name).map Listener.limit = some (server.activeCount name) := by
  obtain ⟨listener, found, stage⟩ := Option.map_eq_some_iff.mp listens
  have within := account.seated.within name listener found
  have taken : server.activeCount name = listener.active := by
    rw [activeCount, found, Option.map_some, Option.getD_some]
  rw [← account.limits, found, Option.map_some, Option.some.injEq, taken, accept, found]
  simp only [Listener.hasPlace, stage, decide_true, Bool.true_and, decide_eq_true_eq]
  split_ifs with place
  · simp only [false_iff]
    omega
  · simp only [true_iff]
    omega

/-- A client that fails the handshake ends its session, which gives its place back. -/
theorem refused (account : Account start asked done server)
    (known : server.session? id = some session) (waiting : session.stage = .handshake)
    {listener : Listener} (listens : server.listeners.get? session.listener = some listener) :
    (server.failHandshake id).session? id = some { session with stage := .over } ∧
      (server.failHandshake id).activeCount session.listener + 1 =
        server.activeCount session.listener := by
  have ended : server.failHandshake id = server.vacate id session := by
    rw [failHandshake, known]
    exact if_pos waiting
  have left := placesHeld_vacate known (by simp [Session.isLive, waiting]) session session.listener
  have held := account.seated.held session.listener listener listens
  rw [if_pos rfl] at left
  rw [ended]
  refine ⟨session?_setSession_self known _, ?_⟩
  have fewer : (server.vacate id session).activeCount session.listener = listener.active - 1 := by
    simp only [activeCount, vacate, Table.get?_modify, if_pos, listens, Option.map_some,
      Option.getD_some]
    rfl
  rw [fewer, activeCount, listens, Option.map_some, Option.getD_some]
  omega

/-- When all sessions are over, all places are free. -/
theorem activeCount_of_over (account : Account start asked done server)
    (ended : ∀ id session, server.session? id = some session → session.stage = .over) (name : String) :
    server.activeCount name = 0 := by
  rw [activeCount]
  cases found : server.listeners.get? name with
  | none => rfl
  | some listener =>
    refine (account.seated.held name listener found).trans (List.countP_eq_zero.mpr ?_)
    rintro ⟨id, session⟩ member
    have known : server.session? id = some session := Table.get?_eq_some_iff.mpr member
    simp [Session.holdsPlace_of_over (ended id session known)]

/-- Nothing is held of a connection whose session is not in use. -/
theorem unheld (account : Account start asked done server)
    (unused : ∀ endpoint, ¬ server.InUse endpoint id) (endpoint : Endpoint) :
    server.hub.identity? (.socket endpoint id) = none ∧
      server.hub.keysOf (.socket endpoint id) = [] := by
  have vacant := account.vacant endpoint.desk id fun other inUse => absurd inUse (unused other)
  refine ⟨vacant.unknown, List.eq_nil_iff_forall_not_mem.mpr fun key member => ?_⟩
  rw [Hub.keysOf, Registry.keysHolding, Registry.mem_keysMatching] at member
  obtain ⟨value, stored, same⟩ := member
  rw [beq_iff_eq] at same
  exact vacant.unheld key (same ▸ stored)

/-- Nothing is called for a client that has not completed its handshake. -/
theorem uncalled (account : Account start asked done server) (unknown : id ∉ done) :
    callsOf id asked = [] := by
  have history := account.history id
  rw [decide_eq_false unknown] at history
  generalize server.status? id = status at history
  generalize callsOf id asked = calls at history ⊢
  cases history <;> rfl

/-- Whoever was told of a closed connection was told once, and nobody is told of one that is open. -/
theorem told (account : Account start asked done server) (id : ConnectionId) (label : String) :
    server.hub.channels.timesTold label id =
      if server.hub.channels.isClosed id then start.hub.channels.audience label else 0 := by
  rw [account.informs.told, Channels.expected, account.informs.audience]

/-- A session whose handshake was completed is connected once, and disconnected once by the time it is
over, and everyone has been told by then that its connection closed. -/
theorem called (account : Account start asked done server) (known : id ∈ done) :
    ∃ session, server.session? id = some session ∧
      if session.stage = .over then
        callsOf id asked = [.greet (.socket session.endpoint id),
            .dismiss (.socket session.endpoint id)] ∧
          ∀ label, server.hub.channels.timesTold label id = start.hub.channels.audience label
      else
        callsOf id asked = [.greet (.socket session.endpoint id)] ∧
          ∀ label, server.hub.channels.timesTold label id ≤ start.hub.channels.audience label := by
  have history := account.history id
  have shut := fun endpoint => account.shut endpoint id known
  rw [decide_eq_true known] at history
  cases there : server.session? id with
  | none =>
    rw [status?, there, Option.map_none] at history
    generalize callsOf id asked = calls at history
    cases history
  | some session =>
    refine ⟨session, rfl, ?_⟩
    have status := status?_eq there
    rw [status] at history shut
    obtain ⟨listener, endpoint, info, buffer, stage, inbox, waiting, outbox⟩ := session
    simp only [Session.status] at history shut ⊢
    generalize callsOf id asked = calls at history ⊢
    cases history with
    | running | leaving =>
      refine ⟨rfl, fun label => ?_⟩
      rw [account.told]
      split_ifs
      · exact Nat.le_refl _
      · exact Nat.zero_le _
    | ended =>
      refine ⟨rfl, fun label => ?_⟩
      have opened := account.opened id
      have closed : server.hub.channels.isClosed id = true := by
        rw [Channels.isClosed_eq, opened, decide_eq_true known, shut endpoint (.inr rfl)]
        rfl
      rw [account.told, if_pos closed]

end Account

/-- In every run of a server with any listeners, whatever goes on around its sessions, each listener has
as many places taken as it has sessions that are not over, never more than its limit, and while it
listens it turns a client away exactly if all its places are taken. A client that is accepted begins a
session and takes a place; if it fails the handshake, the session is over and the place free again. A
client that completes its handshake is connected once; once its session is over it has been
disconnected, once and after that, and everyone who subscribed was told once that its connection closed.
A session that is over has left no identity and no key at any desk, and when all are over all places are
free. A session whose connection is closed, whose listener has stopped or whose client has hung up can
come to its end by its own steps, of which those that write need a client that takes what is written. -/
theorem sessions_are_accounted_for (settings : HubSettings) (subscribers : List Subscriber)
    (mint : Mint) (entropy : Entropy) (own : α) (application : Application α)
    (listeners : Table String Listener) (steps : List Step) :
    let start := initial (Hub.initial settings subscribers mint entropy own) listeners
    let server := start.run application steps
    let asked := start.asked application steps
    let completed := start.completed application steps
    server.hub = start.hub.run application asked ∧
      (∀ name listener, listeners.get? name = some listener →
        server.activeCount name ≤ listener.limit ∧
          server.activeCount name = server.placesHeld name ∧
          ((server.listeners.get? name).map Listener.stage = some .listening → ∀ client id,
            (server.accept name client id).1 = false ↔
              server.activeCount name = listener.limit) ∧
          (∀ client id, (server.accept name client id).1 = true →
            (∃ session, (server.accept name client id).2.session? id = some session ∧
              session.listener = name ∧ session.stage = .handshake) ∧
              (server.accept name client id).2.activeCount name = server.activeCount name + 1) ∧
          ∀ id session, server.session? id = some session → session.listener = name →
            session.stage = .handshake →
              (server.failHandshake id).session? id = some { session with stage := .over } ∧
                (server.failHandshake id).activeCount name + 1 = server.activeCount name) ∧
      (∀ id, id ∉ completed → callsOf id asked = []) ∧
      (∀ id ∈ completed, ∃ session, server.session? id = some session ∧
        if session.stage = .over then
          callsOf id asked = [.greet (.socket session.endpoint id),
              .dismiss (.socket session.endpoint id)] ∧
            ∀ label, server.hub.channels.timesTold label id = start.hub.channels.audience label
        else
          callsOf id asked = [.greet (.socket session.endpoint id)] ∧
            ∀ label, server.hub.channels.timesTold label id ≤ start.hub.channels.audience label) ∧
      (∀ id session, server.session? id = some session → session.stage = .over → ∀ endpoint,
        server.hub.identity? (.socket endpoint id) = none ∧
          server.hub.keysOf (.socket endpoint id) = []) ∧
      ((∀ id session, server.session? id = some session → session.stage = .over) →
        ∀ name, server.activeCount name = 0) ∧
      ∀ id session, server.session? id = some session →
        session.stage = .leaving ∨ session.stage = .running ∧ server.IsDoomed id session →
          server.CanEnd application id := by
  intro start server asked completed
  obtain ⟨account, ran⟩ : Account start asked completed server ∧
      server.hub = start.hub.run application asked :=
    (Account.of_initial settings subscribers mint entropy own listeners).run application steps
  refine ⟨ran, ?places, fun id => account.uncalled, fun id => account.called, ?unheld,
    account.activeCount_of_over, ?ends⟩
  case places =>
    intro name listener listed
    have found : start.listeners.get? name = some listener.emptied :=
      (Table.get?_map ..).trans (congrArg (Option.map Listener.emptied) listed)
    have limit := account.limits name
    rw [found, Option.map_some] at limit
    obtain ⟨now, stored, same⟩ := Option.map_eq_some_iff.mp limit
    have taken : server.activeCount name = now.active := by
      rw [activeCount, stored, Option.map_some, Option.getD_some]
    refine ⟨?_, ?_, fun listens client id => ?_, fun _ _ => accepted, ?_⟩
    · rw [taken]
      exact same ▸ account.seated.within name now stored
    · rw [taken]
      exact account.seated.held name now stored
    · rw [account.accept_eq_false_iff listens, found, Option.map_some, Option.some.injEq, eq_comm]
      rfl
    · rintro id session known rfl waiting
      exact account.refused known waiting stored
  case unheld =>
    intro id session known ended
    refine account.unheld fun endpoint inUse => ?_
    rw [InUse, status?_eq known, Session.status, ended] at inUse
    simp at inUse
  case ends =>
    rintro id session known (leaving | ⟨running, doomed⟩)
    · exact canEnd_of_leaving known leaving
    · exact canEnd_of_doomed account known running doomed

end Server

end Gateway
