import Gateway.Proofs.Server.Places

/-! # What a run does for each session

A turn passes by the session of each connection in one of six ways, so after any number of turns the
session has one of six histories, which say how far it has come, whether its handshake was completed
and which calls connected and disconnected it. Along with the histories a run keeps the account of
places, and the traces that connections leave: a connection is there for every handshake that was
completed, it is closed once its session has stopped reading, and no desk holds anything of a
connection that is not in use.
-/

namespace Gateway

namespace Hub.Action

/-- Whether an action connects or disconnects a socket. -/
def isCallOf (id : ConnectionId) : Hub.Action → Bool
  | .greet (.socket _ other) | .dismiss (.socket _ other) => other = id
  | _ => false

/-- The calls among some actions that connect or disconnect a socket. -/
def callsOf (id : ConnectionId) (actions : List Hub.Action) : List Hub.Action :=
  actions.filter (isCallOf id)

/-- An action that neither brings anything nor speaks for a socket. -/
structure IsSilent (action : Hub.Action) : Prop where
  old : action.isNew = false
  mute : action.socket? = none

theorem isSilent_of_isAround {action : Hub.Action} (around : action.isAround = true) :
    action.IsSilent := by
  cases action with
  | move made => cases made <;> first | exact ⟨rfl, rfl⟩ | cases around
  | greet caller | receive _ caller | dismiss caller =>
    cases caller <;> first | exact ⟨rfl, rfl⟩ | cases around
  | _ => exact ⟨rfl, rfl⟩

theorem isSilent_of_carries {action : Hub.Action} {id : ConnectionId}
    (carries : action.carries id = true) : action.IsSilent := by
  cases action with
  | move made => cases made <;> first | exact ⟨rfl, rfl⟩ | cases carries
  | _ => cases carries

/-- A call is made on behalf of a socket. -/
theorem IsSilent.isCallOf {action : Hub.Action} (silent : action.IsSilent) (id : ConnectionId) :
    action.isCallOf id = false := by
  have mute := silent.mute
  cases action with
  | greet caller | dismiss caller => cases caller <;> first | rfl | cases mute
  | _ => rfl

theorem callsOf_eq_nil {actions : List Hub.Action} {id : ConnectionId}
    (others : ∀ action ∈ actions, action.isCallOf id = false) : callsOf id actions = [] :=
  List.filter_eq_nil_iff.mpr fun action member => by simp [others action member]

end Hub.Action

open Hub.Action

/-- The endpoint and the stage of a session. -/
def Session.status (session : Session) : Endpoint × SessionStage := (session.endpoint, session.stage)

namespace Server

variable {α : Type} {application : Application α} {before after : Server α}
  {actions : List Hub.Action} {completed : Option ConnectionId}
  {said : Option (ConnectionId × Utterance)} {id : ConnectionId}

/-- The endpoint and the stage of the session of a connection. -/
def status? (server : Server α) (id : ConnectionId) : Option (Endpoint × SessionStage) :=
  (server.session? id).map Session.status

/-- How a turn passes by the session of a connection: how far it was, which calls are made for it,
whether its handshake completes, and how far it is. A session that leaves is closed by then. -/
inductive Passage (id : ConnectionId) (closed : Prop) :
    Option (Endpoint × SessionStage) → List Hub.Action → Bool →
      Option (Endpoint × SessionStage) → Prop
  | stays (status : Option (Endpoint × SessionStage)) : Passage id closed status [] false status
  | begins (endpoint : Endpoint) : Passage id closed none [] false (some (endpoint, .handshake))
  | connects (endpoint : Endpoint) :
    Passage id closed (some (endpoint, .handshake)) [.greet (.socket endpoint id)] true
      (some (endpoint, .running))
  | fails (endpoint : Endpoint) :
    Passage id closed (some (endpoint, .handshake)) [] false (some (endpoint, .over))
  | leaves (endpoint : Endpoint) (shut : closed) :
    Passage id closed (some (endpoint, .running)) [] false (some (endpoint, .leaving))
  | ends (endpoint : Endpoint) :
    Passage id closed (some (endpoint, .leaving)) [.dismiss (.socket endpoint id)] false
      (some (endpoint, .over))

/-- How far a session can have come, which calls were made for it by then, and whether its handshake
was completed. -/
inductive History (id : ConnectionId) :
    Option (Endpoint × SessionStage) → List Hub.Action → Bool → Prop
  | unused : History id none [] false
  | waiting (endpoint : Endpoint) : History id (some (endpoint, .handshake)) [] false
  | running (endpoint : Endpoint) :
    History id (some (endpoint, .running)) [.greet (.socket endpoint id)] true
  | leaving (endpoint : Endpoint) :
    History id (some (endpoint, .leaving)) [.greet (.socket endpoint id)] true
  | refused (endpoint : Endpoint) : History id (some (endpoint, .over)) [] false
  | ended (endpoint : Endpoint) :
    History id (some (endpoint, .over))
      [.greet (.socket endpoint id), .dismiss (.socket endpoint id)] true

/-- A passage leads from history to history. -/
theorem History.passage {id : ConnectionId} {closed : Prop}
    {status status' : Option (Endpoint × SessionStage)} {calls calls' : List Hub.Action}
    {done done' : Bool} (history : History id status calls done)
    (passage : Passage id closed status calls' done' status') :
    History id status' (calls ++ calls') (done || done') := by
  cases passage with
  | stays status =>
    rw [List.append_nil, Bool.or_false]
    exact history
  | begins endpoint =>
    cases history with
    | unused => exact .waiting endpoint
  | connects endpoint =>
    cases history with
    | waiting => exact .running endpoint
  | fails endpoint =>
    cases history with
    | waiting => exact .refused endpoint
  | leaves endpoint =>
    cases history with
    | running => exact .leaving endpoint
  | ends endpoint =>
    cases history with
    | leaving => exact .ended endpoint

theorem status?_setSession (server : Server α) {id : ConnectionId} {session : Session}
    (known : server.session? id = some session) (next : Session) (other : ConnectionId) :
    (server.setSession id next).status? other =
      if other = id then some next.status else server.status? other := by
  rw [status?, session?_setSession]
  split_ifs with same
  · rw [same, known, Option.map_some, Option.map_some]
  · rfl

theorem status?_eq {server : Server α} {id : ConnectionId} {session : Session}
    (known : server.session? id = some session) : server.status? id = some session.status := by
  rw [status?, known, Option.map_some]

/-- A session that has no part in a turn stays as it is. -/
theorem Passage.of_others {id : ConnectionId} {closed : Prop}
    {status status' : Option (Endpoint × SessionStage)} (same : status' = status)
    (uncalled : ∀ action ∈ actions, action.isCallOf id = false) (incomplete : completed ≠ some id) :
    Passage id closed status (callsOf id actions) (decide (completed = some id)) status' := by
  rw [callsOf_eq_nil uncalled, decide_eq_false incomplete, same]
  exact .stays status

/-- A turn passes by the session that it changes in its own way, and leaves the others as they are. -/
theorem Passage.of_change {id other : ConnectionId} {closed : Prop} {session next : Session}
    (known : before.session? other = some session)
    (changed : after.status? id = if id = other then some next.status else before.status? id)
    (others : id ≠ other →
      (∀ action ∈ actions, action.isCallOf id = false) ∧ completed ≠ some id)
    (mine : id = other → Passage other closed (some session.status) (callsOf other actions)
      (decide (completed = some other)) (some next.status)) :
    Passage id closed (before.status? id) (callsOf id actions) (decide (completed = some id))
      (after.status? id) := by
  by_cases same : id = other
  · subst same
    rw [changed, if_pos rfl, status?_eq known]
    exact mine rfl
  · obtain ⟨uncalled, incomplete⟩ := others same
    rw [if_neg same] at changed
    exact .of_others changed uncalled incomplete

/-- What a turn is to the session of a connection. -/
theorem Turn.passage (turn : Turn application before actions completed said after) (id : ConnectionId) :
    Passage id (after.hub.channels.isActive id = false) (before.status? id) (callsOf id actions)
      (decide (completed = some id)) (after.status? id) := by
  cases turn with
  | aside around kept =>
    exact .of_others rfl
      (fun action member => (isSilent_of_isAround (around action member)).isCallOf id) nofun
  | @accepted name client other listener unused listens place =>
    by_cases mine : id = other
    · subst mine
      have nobody : before.status? id = none := congrArg (Option.map Session.status) unused
      rw [nobody, status?, session?, Table.get?_insert, if_pos rfl]
      exact .begins listener.endpoint
    · refine .of_others ?_ (List.forall_mem_nil _) nofun
      rw [status?, session?, Table.get?_insert, if_neg (Ne.symm mine)]
      rfl
  | @connected other session known waiting =>
    refine .of_change known (status?_setSession (before.asking application _) known _ id)
      (fun differs => ⟨?_, fun same => differs (Option.some.inj same).symm⟩) fun _ => ?_
    · simp [isCallOf, Ne.symm differs]
    · have calls : callsOf other [.move (.accept other session.info session.buffer),
          .greet (.socket session.endpoint other)] = [.greet (.socket session.endpoint other)] := by
        simp [callsOf, isCallOf]
      rw [Session.status, waiting, calls, decide_eq_true rfl]
      exact .connects session.endpoint
  | @refused other session known waiting =>
    refine .of_change known (status?_setSession before known _ id)
      (fun _ => ⟨List.forall_mem_nil _, nofun⟩) fun _ => ?_
    rw [Session.status, waiting]
    exact .fails session.endpoint
  | @served other session next actions utterance known service =>
    have uncalled : ∀ action ∈ actions, action.isCallOf id = false := by
      cases service <;> simp [isCallOf]
    obtain ⟨-, endpoint, stage⟩ := service.keeps
    refine .of_change known (status?_setSession (before.asking application actions) known next id)
      (fun _ => ⟨uncalled, nofun⟩) fun same => ?_
    have status : next.status = session.status := by
      rw [Session.status, Session.status, endpoint, stage]
    exact .of_others (congrArg some status) (same ▸ uncalled) nofun
  | @left other session rest known reading unread =>
    refine .of_change known (status?_setSession (before.asking application _) known _ id)
      (fun _ => ⟨by simp [isCallOf], nofun⟩) fun same => ?_
    rw [Session.status, (Session.running_of_reading reading).1]
    exact .leaves session.endpoint (same ▸ Channels.isActive_close before.hub.channels other)
  | @released other session takes known leaving carried =>
    have silent : ∀ action ∈ takes, action.isCallOf id = false := fun action member =>
      (isSilent_of_carries (carried action member)).isCallOf id
    refine .of_change known (status?_setSession (before.asking application _) known _ id)
      (fun differs => ⟨?_, nofun⟩) fun same => ?_
    · simpa [isCallOf, Ne.symm differs, or_imp, forall_and] using silent
    · have calls : callsOf other (.dismiss (.socket session.endpoint other) ::
          (takes ++ [.move (.dropReceiver other)])) =
            [.dismiss (.socket session.endpoint other)] := by
        have nothing := callsOf_eq_nil (same ▸ silent)
        rw [callsOf] at nothing
        simp [callsOf, isCallOf, nothing]
      rw [Session.status, leaving, calls]
      exact .ends session.endpoint

theorem Turn.hub (turn : Turn application before actions completed said after) :
    after.hub = before.hub.run application actions := by
  cases turn <;> rfl

/-- Unless a handshake completes, nobody arrives. -/
theorem Turn.old (turn : Turn application before actions none said after) :
    ∀ action ∈ actions, action.isNew = false := by
  cases turn with
  | aside around kept => exact fun action member => (isSilent_of_isAround (around action member)).old
  | served known service => cases service <;> simp [Hub.Action.isNew, Channels.Move.isNew]
  | released known leaving carried =>
    have silent := fun action member => (isSilent_of_carries (carried action member)).old
    simpa [Hub.Action.isNew, Channels.Move.isNew, or_imp, forall_and] using silent
  | accepted | refused => exact List.forall_mem_nil _
  | left => simp [Hub.Action.isNew, Channels.Move.isNew]

/-- Whoever completes a handshake arrives, and that is all that changes before it is connected. -/
theorem Turn.arrival (turn : Turn application before actions (some id) said after) :
    ∃ info buffer, let arrived := before.hub.channels.perform (.accept id info buffer)
      arrived.Fades after.hub.channels := by
  cases turn with
  | @connected id session known waiting =>
    refine ⟨session.info, session.buffer, ?_⟩
    have old : Hub.Action.isNew (.greet (.socket session.endpoint id)) = false := rfl
    exact (before.hub.perform application
      (.move (.accept id session.info session.buffer))).fades_perform application old

/-- Connections are those that were there and those whose handshake completes. -/
theorem Turn.opened (turn : Turn application before actions completed said after) (id : ConnectionId) :
    (after.hub.channels.connection? id).isSome =
      ((before.hub.channels.connection? id).isSome || decide (completed = some id)) := by
  cases completed with
  | none =>
    have fades := before.hub.fades_run application turn.old
    rw [turn.hub, fades.known, decide_eq_false nofun, Bool.or_false]
  | some other =>
    obtain ⟨info, buffer, fades⟩ := turn.arrival
    rw [fades.known]
    by_cases mine : id = other
    · subst mine
      rw [Channels.perform]
      split_ifs with known
      · simp [known]
      · simp [Channels.openConnection, Channels.connection?]
    · rw [Channels.connection?_accept_of_ne _ mine]
      simp [Ne.symm mine]

/-- Whoever is active was active before, or arrives. -/
theorem Turn.active (turn : Turn application before actions completed said after)
    (active : after.hub.channels.isActive id = true) :
    before.hub.channels.isActive id = true ∨ completed = some id := by
  cases completed with
  | none =>
    have fades := before.hub.fades_run application turn.old
    rw [turn.hub] at active
    exact .inl (fades.active id active)
  | some other =>
    obtain ⟨info, buffer, fades⟩ := turn.arrival
    by_cases mine : id = other
    · exact .inr (congrArg some mine.symm)
    · have before := fades.active id active
      rw [Channels.isActive, Channels.connection?_accept_of_ne _ mine] at before
      exact .inl before

theorem Turn.informs {start : Channels} (turn : Turn application before actions completed said after)
    (informs : start.Informs before.hub.channels) : start.Informs after.hub.channels := by
  cases completed with
  | none =>
    rw [turn.hub]
    exact informs.fades (before.hub.fades_run application turn.old)
  | some id =>
    obtain ⟨info, buffer, fades⟩ := turn.arrival
    exact (informs.accept id info buffer).fades fades

theorem limit_modify (listeners : Table String Listener) (name other : String)
    {change : Listener → Listener} (kept : ∀ listener, (change listener).limit = listener.limit) :
    ((listeners.modify name change).get? other).map Listener.limit =
      (listeners.get? other).map Listener.limit := by
  rw [Table.get?_modify]
  split_ifs
  · rw [Option.map_map]
    exact congrArg (Option.map · _) (funext kept)
  · rfl

/-- Listeners keep their limits. -/
theorem Turn.limits (turn : Turn application before actions completed said after) (name : String) :
    (after.listeners.get? name).map Listener.limit =
      (before.listeners.get? name).map Listener.limit := by
  cases turn with
  | aside around kept =>
    obtain rfl | ⟨stopped, rfl⟩ := kept
    · rfl
    · exact limit_modify _ stopped name fun _ => rfl
  | accepted | refused | released => exact limit_modify _ _ name fun _ => rfl
  | connected | served | left => rfl

/-- Whether the session of a connection may still send messages or has yet to be disconnected. -/
def InUse (server : Server α) (endpoint : Endpoint) (id : ConnectionId) : Prop :=
  server.status? id = some (endpoint, .running) ∨ server.status? id = some (endpoint, .leaving)

/-- A session that is in use stays so, or it is disconnected. -/
theorem Turn.inUse (turn : Turn application before actions completed said after) {endpoint : Endpoint}
    (inUse : before.InUse endpoint id) :
    after.InUse endpoint id ∨ .dismiss (.socket endpoint id) ∈ actions := by
  have passage := turn.passage id
  have called : callsOf id actions = [.dismiss (.socket endpoint id)] →
      .dismiss (.socket endpoint id) ∈ actions := fun calls =>
    (List.mem_filter.mp (calls ▸ List.mem_singleton_self _)).1
  rw [InUse] at inUse ⊢
  generalize before.status? id = status at passage inUse
  generalize after.status? id = status' at passage ⊢
  generalize callsOf id actions = calls at passage called
  generalize decide (completed = some id) = done at passage
  cases passage with
  | stays _ => exact .inl inUse
  | begins _ | connects _ | fails _ => simp at inUse
  | leaves other shut =>
    obtain rfl : other = endpoint := by simpa using inUse
    exact .inl (.inr rfl)
  | ends other =>
    obtain rfl : other = endpoint := by simpa using inUse
    exact .inr (called rfl)

/-- Whoever a turn speaks for is in use after it, or is disconnected. -/
theorem Turn.speaks (turn : Turn application before actions completed said after) {action : Hub.Action}
    (member : action ∈ actions) {endpoint : Endpoint}
    (socket : action.socket? = some (endpoint, id)) :
    after.InUse endpoint id ∨ action = .dismiss (.socket endpoint id) := by
  have silent : ∀ {action : Hub.Action}, action.IsSilent → action.socket? = some (endpoint, id) →
      after.InUse endpoint id ∨ action = .dismiss (.socket endpoint id) := fun silent socket =>
    nomatch silent.mute.symm.trans socket
  cases turn with
  | aside around kept => exact silent (isSilent_of_isAround (around action member)) socket
  | accepted | refused => cases member
  | connected known waiting =>
    rw [List.mem_cons, List.mem_singleton] at member
    obtain rfl | rfl := member
    · cases socket
    · cases socket
      refine .inl (.inl ?_)
      exact (status?_setSession (before.asking application _) known _ _).trans (if_pos rfl)
  | @served other session next actions utterance known service =>
    obtain ⟨-, kept, stage⟩ := service.keeps
    cases service with
    | answered reading next =>
      obtain rfl := List.mem_singleton.mp member
      cases socket
      refine .inl (.inl ?_)
      rw [status?_setSession (before.asking application _) known, if_pos rfl, Session.status, kept,
        stage, (Session.running_of_reading reading).1]
    | wrote | resumed =>
      obtain rfl := List.mem_singleton.mp member
      cases socket
    | _ => cases member
  | left known reading unread =>
    obtain rfl := List.mem_singleton.mp member
    cases socket
  | released known leaving carried =>
    rw [List.mem_cons, List.mem_append, List.mem_singleton] at member
    obtain rfl | member | rfl := member
    · cases socket
      exact .inr rfl
    · exact silent (isSilent_of_carries (carried action member)) socket
    · cases socket

/-- A turn that disconnects a socket does so first, and speaks for nobody after that. -/
theorem Turn.dismisses (turn : Turn application before actions completed said after)
    {endpoint : Endpoint} (member : .dismiss (.socket endpoint id) ∈ actions) :
    ∃ rest, actions = .dismiss (.socket endpoint id) :: rest ∧
      (∀ action ∈ rest, action.socket? = none) ∧
      before.status? id = some (endpoint, .leaving) := by
  have silent : ∀ {action : Hub.Action}, action.IsSilent →
      action ≠ .dismiss (.socket endpoint id) := by
    rintro _ silent rfl
    cases silent.mute
  cases turn with
  | aside around kept => exact absurd rfl (silent (isSilent_of_isAround (around _ member)))
  | accepted | refused => cases member
  | connected known waiting => simp at member
  | served known service => cases service <;> simp at member
  | left known reading unread => simp at member
  | released known leaving carried =>
    rw [List.mem_cons, List.mem_append, List.mem_singleton] at member
    obtain same | member | same := member
    · cases same
      refine ⟨_, rfl, fun action later => ?_, ?_⟩
      · obtain taken | last := List.mem_append.mp later
        · exact (isSilent_of_carries (carried action taken)).mute
        · rw [List.mem_singleton.mp last]
          rfl
      · rw [status?_eq known, Session.status, leaving]
    · exact absurd rfl (silent (isSilent_of_carries (carried _ member)))
    · cases same

/-- A desk that holds nothing of the connections that are not in use holds nothing of them after a
turn. -/
theorem Turn.vacant (turn : Turn application before actions completed said after) {desk : SocketDesk}
    {visits : List (Visit ConnectionId)} (records : (before.hub.socketReception desk).Records visits)
    (vacant : (∀ endpoint, before.InUse endpoint id → endpoint.desk ≠ desk) →
      (before.hub.socketReception desk).Vacant id)
    (unused : ∀ endpoint, after.InUse endpoint id → endpoint.desk ≠ desk) :
    (after.hub.socketReception desk).Vacant id := by
  rw [turn.hub]
  by_cases leaver : ∃ endpoint, .dismiss (.socket endpoint id) ∈ actions
  · obtain ⟨endpoint, member⟩ := leaver
    obtain ⟨rest, rfl, mute, leaving⟩ := turn.dismisses member
    have away : ∀ action ∈ rest, ∀ endpoint, action.socket? = some (endpoint, id) →
        endpoint.desk ≠ desk := fun action member endpoint socket =>
      nomatch (mute action member).symm.trans socket
    rw [Hub.run_cons]
    by_cases here : endpoint.desk = desk
    · subst here
      exact Hub.vacant_run (Hub.records_perform records _) (Hub.vacant_dismiss records id) away
    · refine Hub.vacant_run (Hub.records_perform records _) (Hub.vacant_perform records ?_ ?_) away
      · refine vacant fun other inUse => ?_
        obtain rfl : endpoint = other := by simpa [InUse, leaving] using inUse
        exact here
      · rintro other ⟨⟩
        exact here
  · refine Hub.vacant_run records (vacant fun endpoint inUse => ?_)
      fun action member endpoint socket => ?_
    · obtain still | gone := turn.inUse inUse
      · exact unused endpoint still
      · exact absurd ⟨endpoint, gone⟩ leaver
    · obtain still | rfl := turn.speaks member socket
      · exact unused endpoint still
      · exact absurd ⟨endpoint, member⟩ leaver

/-- What is known of a server after a run, given what was asked of its hub and whose handshakes were
completed. -/
structure Account (start : Server α) (asked : List Hub.Action) (done : List ConnectionId)
    (server : Server α) : Prop where
  limits : ∀ name, (server.listeners.get? name).map Listener.limit =
    (start.listeners.get? name).map Listener.limit
  seated : server.Seated
  history : ∀ id, History id (server.status? id) (callsOf id asked) (decide (id ∈ done))
  opened : ∀ id, (server.hub.channels.connection? id).isSome = decide (id ∈ done)
  shut : ∀ endpoint id, id ∈ done →
    server.status? id = some (endpoint, .leaving) ∨ server.status? id = some (endpoint, .over) →
      server.hub.channels.isActive id = false
  informs : start.hub.channels.Informs server.hub.channels
  records : ∀ desk, ∃ visits, (server.hub.socketReception desk).Records visits
  vacant : ∀ desk id, (∀ endpoint, server.InUse endpoint id → endpoint.desk ≠ desk) →
    (server.hub.socketReception desk).Vacant id
  roomy : server.hub.channels.Roomy

namespace Account

variable {start : Server α} {asked : List Hub.Action} {done : List ConnectionId}

theorem fresh (account : Account start asked done before) : before.Fresh := by
  intro id session known waiting
  have history := account.history id
  have opened := account.opened id
  rw [status?_eq known, Session.status, waiting] at history
  generalize decide (id ∈ done) = completed at history opened
  generalize callsOf id asked = calls at history
  cases history with
  | waiting => exact Option.isNone_iff_eq_none.mp (Option.isSome_eq_false_iff.mp opened)

/-- A connection is there for every session that is running. -/
theorem connection {session : Session} (account : Account start asked done before)
    (known : before.session? id = some session) (running : session.stage = .running) :
    ∃ connection, before.hub.channels.connection? id = some connection := by
  have history := account.history id
  have opened := account.opened id
  rw [status?_eq known, Session.status, running] at history
  generalize decide (id ∈ done) = completed at history opened
  generalize callsOf id asked = calls at history
  cases history with
  | running => exact Option.isSome_iff_exists.mp opened

/-- No connection is there without a session. -/
theorem absent (account : Account start asked done before) (unused : before.session? id = none) :
    before.hub.channels.connection? id = none := by
  have history := account.history id
  have opened := account.opened id
  rw [status?, unused, Option.map_none] at history
  generalize decide (id ∈ done) = completed at history opened
  generalize callsOf id asked = calls at history
  cases history
  exact Option.isNone_iff_eq_none.mp (Option.isSome_eq_false_iff.mp opened)

/-- The connection of a session that has stopped reading is closed. -/
theorem isClosed_of_leaving {session : Session} (account : Account start asked done before)
    (known : before.session? id = some session) (leaving : session.stage = .leaving) :
    before.hub.channels.isClosed id = true := by
  have history := account.history id
  have opened := account.opened id
  have shut := fun completed => account.shut session.endpoint id (of_decide_eq_true completed)
  rw [status?_eq known, Session.status, leaving] at history shut
  generalize decide (id ∈ done) = completed at history opened shut
  generalize callsOf id asked = calls at history
  cases history
  rw [Channels.isClosed_eq, opened, shut rfl (.inl rfl)]
  rfl

theorem done_append (done : List ConnectionId) (completed : Option ConnectionId)
    (id : ConnectionId) :
    decide (id ∈ done ++ completed.toList) = (decide (id ∈ done) || decide (completed = some id)) := by
  simp [Bool.decide_or, Option.mem_toList]

/-- A session that leaves is closed from then on. -/
theorem shut_turn (account : Account start asked done before)
    (turn : Turn application before actions completed said after) (endpoint : Endpoint)
    (id : ConnectionId) (completes : id ∈ done ++ completed.toList)
    (past : after.status? id = some (endpoint, .leaving) ∨ after.status? id = some (endpoint, .over)) :
    after.hub.channels.isActive id = false := by
  have passage := turn.passage id
  have history := account.history id
  have shut : decide (id ∈ done) = true → _ → _ := fun done =>
    account.shut endpoint id (of_decide_eq_true done)
  have completes : (decide (id ∈ done) || decide (completed = some id)) = true := by
    rw [← done_append]
    exact decide_eq_true completes
  have faded : decide (completed = some id) = false → before.hub.channels.isActive id = false →
      after.hub.channels.isActive id = false := by
    intro incomplete inactive
    rw [Bool.eq_false_iff] at inactive ⊢
    intro active
    obtain still | same := turn.active active
    · exact inactive still
    · exact of_decide_eq_false incomplete same
  generalize before.status? id = status at passage history shut
  generalize after.status? id = status' at passage past
  generalize callsOf id actions = calls at passage
  generalize callsOf id asked = called at history
  generalize decide (id ∈ done) = known at history shut completes
  generalize decide (completed = some id) = joins at passage completes faded
  cases passage with
  | stays _ => exact faded rfl (shut (by simpa using completes) past)
  | begins _ | connects _ => simp at past
  | fails _ =>
    cases history with
    | waiting => cases completes
  | leaves _ closed => exact closed
  | ends other =>
    obtain rfl : other = endpoint := by simpa using past
    exact faded rfl (shut (by simpa using completes) (.inl rfl))

/-- Every turn keeps the account. -/
theorem turn (account : Account start asked done before)
    (turn : Turn application before actions completed said after) :
    Account start (asked ++ actions) (done ++ completed.toList) after := by
  constructor
  case limits => exact fun name => (turn.limits name).trans (account.limits name)
  case seated => exact account.seated.turn turn
  case history =>
    intro id
    rw [done_append, callsOf, List.filter_append]
    exact (account.history id).passage (turn.passage id)
  case opened =>
    intro id
    rw [turn.opened, account.opened, done_append]
  case shut => exact account.shut_turn turn
  case informs => exact turn.informs account.informs
  case records =>
    intro desk
    obtain ⟨visits, records⟩ := account.records desk
    rw [turn.hub]
    exact ⟨_, Hub.records_run records actions⟩
  case vacant =>
    intro desk id unused
    obtain ⟨visits, records⟩ := account.records desk
    exact turn.vacant records (account.vacant desk id) unused
  case roomy =>
    rw [turn.hub]
    exact Hub.channels_run (fun _ move roomy => roomy.perform move) application account.roomy actions

/-- So does every run, and what it does to the hub is what it asks of it. -/
theorem run (account : Account start asked done before) (application : Application α)
    (steps : List Step) :
    Account start (asked ++ before.asked application steps)
        (done ++ before.completed application steps) (before.run application steps) ∧
      (before.run application steps).hub =
        before.hub.run application (before.asked application steps) := by
  induction steps generalizing before asked done with
  | nil =>
    rw [Server.asked, Server.completed, List.append_nil, List.append_nil]
    exact ⟨account, rfl⟩
  | cons step rest ih =>
    have turn := turn_perform application before account.fresh step
    obtain ⟨after, ran⟩ := ih (account.turn turn)
    rw [Server.asked, Server.completed, ← List.append_assoc, ← List.append_assoc, Hub.run_append,
      ← turn.hub]
    exact ⟨after, ran⟩

/-- Before anyone has arrived there is nothing to account for. -/
theorem of_initial (settings : HubSettings) (subscribers : List Subscriber) (mint : Mint)
    (entropy : Entropy) (own : α) (listeners : Table String Listener) :
    let server := initial (Hub.initial settings subscribers mint entropy own) listeners
    Account server [] [] server := by
  intro server
  have records : ∀ desk, (server.hub.socketReception desk).Records [] :=
    Hub.records_initial settings subscribers mint entropy own
  constructor
  case limits => exact fun _ => rfl
  case seated =>
    constructor
    case held =>
      intro name listener found
      obtain ⟨_, -, rfl⟩ := Option.map_eq_some_iff.mp ((Table.get?_map ..).symm.trans found)
      rfl
    case within =>
      intro name listener found
      obtain ⟨_, -, rfl⟩ := Option.map_eq_some_iff.mp ((Table.get?_map ..).symm.trans found)
      exact Nat.zero_le _
  case history => exact fun id => .unused
  case opened => exact fun id => rfl
  case shut => exact fun endpoint id member => nomatch member
  case informs => exact ⟨rfl, fun label id => rfl⟩
  case records => exact fun desk => ⟨[], records desk⟩
  case vacant =>
    intro desk id unused
    have empty : (Hub.initial settings subscribers mint entropy own).desks.get desk =
        .empty none false := by cases desk <;> rfl
    have reception : server.hub.socketReception desk = ⟨.empty none false, mint, _⟩ :=
      congrArg (Reception.mk · mint _) empty
    rw [reception]
    exact Reception.vacant_initial mint _ id
  case roomy => exact fun id connection found => nomatch found

end Account

end Server

end Gateway
