import Gateway.Proofs.Hub.Traces
import Gateway.Proofs.Server.Run

/-! # The places of a listener

A listener keeps count of its places, while its sessions are in a table of the server. The two agree:
a place is taken when a session begins, given back when it is over, and by no other turn. So a listener
never has more sessions than places, because it accepts nobody without one.
-/

namespace Gateway

namespace Table

variable {K : Type u} {V : Type v} [DecidableEq K]

/-- How many of the values of a table are accepted. -/
def count (table : Table K V) (accepts : V → Bool) : Nat :=
  table.entries.countP fun entry => accepts entry.2

theorem assign_of_lookup_eq_none {key : K} {value : V} {entries : List (K × V)}
    (absent : lookup key entries = none) : assign key value entries = entries ++ [(key, value)] := by
  induction entries with
  | nil => rfl
  | cons head rest ih =>
    obtain ⟨other, old⟩ := head
    rw [lookup] at absent
    split_ifs at absent with here
    rw [assign, if_neg here, ih absent, List.cons_append]

/-- A value stored under a new key counts once more. -/
theorem count_insert {table : Table K V} {key : K} (absent : table.get? key = none) (value : V)
    (accepts : V → Bool) :
    (table.insert key value).count accepts =
      table.count accepts + if accepts value then 1 else 0 := by
  simp only [count, insert, assign_of_lookup_eq_none absent, List.countP_append,
    List.countP_singleton]

/-- Another value under a key counts in place of the old one. -/
theorem count_modify {table : Table K V} {key : K} {old : V} (found : table.get? key = some old)
    (value : V) (accepts : V → Bool) :
    (table.modify key fun _ => value).count accepts + (if accepts old then 1 else 0) =
      table.count accepts + if accepts value then 1 else 0 := by
  obtain ⟨entries, nodup⟩ := table
  simp only [get?, count, modify] at found ⊢
  induction entries with
  | nil => cases found
  | cons head rest ih =>
    obtain ⟨other, first⟩ := head
    rw [List.map_cons, List.nodup_cons] at nodup
    simp only [List.map_cons, List.countP_cons]
    rw [lookup] at found
    split_ifs at found with here
    · obtain rfl := Option.some.inj found
      have others : (rest.map fun entry => (entry.1, if entry.1 = key then value else entry.2)) =
          rest := by
        refine (List.map_congr_left fun entry member => ?_).trans (List.map_id rest)
        have differs : entry.1 ≠ key := by
          intro same
          have listed : entry.1 ∈ rest.map Prod.fst := List.mem_map_of_mem member
          exact nodup.1 (here.trans same.symm ▸ listed)
        rw [if_neg differs]
        rfl
      rw [if_pos here, others]
      omega
    · have rest := ih nodup.2 found
      rw [if_neg here]
      omega

/-- What is found once a value has changed was found before, changed or not. -/
theorem get?_modify_eq_some {table : Table K V} {key other : K} {change : V → V} {value : V}
    (found : (table.modify key change).get? other = some value) :
    ∃ old, table.get? other = some old ∧ value = if other = key then change old else old := by
  rw [get?_modify] at found
  split_ifs at found ⊢
  · obtain ⟨old, stored, rfl⟩ := Option.map_eq_some_iff.mp found
    exact ⟨old, stored, rfl⟩
  · exact ⟨value, found, rfl⟩

end Table

/-- Whether a session holds one of the places of a listener. -/
def Session.holdsPlace (name : String) (session : Session) : Bool :=
  session.listener = name && session.isLive

theorem Session.holdsPlace_of_live {session : Session} (live : session.isLive = true)
    (name : String) : session.holdsPlace name = decide (name = session.listener) := by
  rw [holdsPlace, live, Bool.and_true]
  exact decide_eq_decide.mpr eq_comm

theorem Session.holdsPlace_of_over {session : Session} (ended : session.stage = .over)
    (name : String) : session.holdsPlace name = false := by
  rw [holdsPlace, isLive, ended]
  exact Bool.and_false _

namespace Server

variable {α : Type} {application : Application α} {before after : Server α}
  {actions : List Hub.Action} {completed : Option ConnectionId}
  {said : Option (ConnectionId × Utterance)}

/-- How many places of a listener its sessions hold. -/
def placesHeld (server : Server α) (name : String) : Nat :=
  server.sessions.count (Session.holdsPlace name)

/-- A session that goes on at its listener holds a place if it held one before. -/
theorem placesHeld_setSession {server : Server α} {id : ConnectionId} {session next : Session}
    (known : server.session? id = some session) (listener : next.listener = session.listener)
    (live : next.isLive = session.isLive) (name : String) :
    (server.setSession id next).placesHeld name = server.placesHeld name := by
  have counted := Table.count_modify known next (Session.holdsPlace name)
  rw [Session.holdsPlace, Session.holdsPlace, listener, live] at counted
  exact Nat.add_right_cancel counted

/-- A session that is over gives its place back. -/
theorem placesHeld_vacate {server : Server α} {id : ConnectionId} {session : Session}
    (known : server.session? id = some session) (live : session.isLive = true) (next : Session)
    (name : String) :
    (server.vacate id next).placesHeld name + (if name = session.listener then 1 else 0) =
      server.placesHeld name := by
  have counted := Table.count_modify known { next with stage := .over } (Session.holdsPlace name)
  rw [Session.holdsPlace_of_live live, Session.holdsPlace_of_over rfl] at counted
  simp only [decide_eq_true_eq, Bool.false_eq_true, ↓reduceIte, Nat.add_zero] at counted
  exact counted

/-- A client that is accepted takes a place of its listener. -/
theorem placesHeld_insert {server : Server α} {id : ConnectionId}
    (unused : server.session? id = none) (listener : Listener) (name client : String)
    (listeners : Table String Listener) (other : String) :
    Server.placesHeld
        { server with
          listeners := listeners
          sessions := server.sessions.insert id (listener.welcome name client) } other =
      server.placesHeld other + if other = name then 1 else 0 := by
  have counted := Table.count_insert unused (listener.welcome name client)
    (Session.holdsPlace other)
  rw [Session.holdsPlace_of_live rfl] at counted
  simp only [decide_eq_true_eq] at counted
  exact counted

/-- Every listener has as many places taken as its sessions hold, and no more than it has. -/
structure Seated (server : Server α) : Prop where
  held : ∀ name listener, server.listeners.get? name = some listener →
    listener.active = server.placesHeld name
  within : ∀ name listener, server.listeners.get? name = some listener →
    listener.active ≤ listener.limit

namespace Seated

/-- Sessions that go on keep their places. -/
theorem setSession (seated : before.Seated) {id : ConnectionId} {session next : Session}
    (known : before.session? id = some session) (listener : next.listener = session.listener)
    (live : next.isLive = session.isLive) : (before.setSession id next).Seated where
  held name listener' found := by
    rw [placesHeld_setSession known listener live]
    exact seated.held name listener' found
  within := seated.within

theorem vacate (seated : before.Seated) {id : ConnectionId} {session next : Session}
    (known : before.session? id = some session) (live : session.isLive = true)
    (same : next.listener = session.listener) : (before.vacate id next).Seated := by
  have left := placesHeld_vacate known live next
  constructor
  case held =>
    intro name listener found
    obtain ⟨old, stored, rfl⟩ := Table.get?_modify_eq_some found
    have held := seated.held name old stored
    have left := left name
    rw [same]
    split_ifs at left ⊢
    · change old.active - 1 = _
      omega
    · omega
  case within =>
    intro name listener found
    obtain ⟨old, stored, rfl⟩ := Table.get?_modify_eq_some found
    have within := seated.within name old stored
    split_ifs
    · change old.active - 1 ≤ old.limit
      omega
    · exact within

theorem accept (seated : before.Seated) {id : ConnectionId} (unused : before.session? id = none)
    {name : String} {listener : Listener} (listens : before.listeners.get? name = some listener)
    (place : listener.hasPlace = true) (client : String) :
    Seated
      { before with
        listeners := before.listeners.modify name Listener.occupied
        sessions := before.sessions.insert id (listener.welcome name client) } := by
  constructor
  case held =>
    intro other listener' found
    obtain ⟨old, stored, rfl⟩ := Table.get?_modify_eq_some found
    rw [placesHeld_insert unused, ← seated.held other old stored]
    split_ifs <;> rfl
  case within =>
    intro other listener' found
    obtain ⟨old, stored, rfl⟩ := Table.get?_modify_eq_some found
    split_ifs with same
    · subst same
      obtain rfl := Option.some.inj (listens.symm.trans stored)
      simp only [Listener.hasPlace, Bool.and_eq_true, decide_eq_true_eq] at place
      exact place.2
    · exact seated.within other old stored

theorem aside (seated : before.Seated) {listeners : Table String Listener}
    (kept : listeners = before.listeners ∨
      ∃ name, listeners = before.listeners.modify name Listener.stopped) :
    Seated { before with listeners := listeners } := by
  obtain rfl | ⟨name, rfl⟩ := kept
  · exact seated
  · constructor
    case held =>
      intro other listener found
      obtain ⟨old, stored, rfl⟩ := Table.get?_modify_eq_some found
      split_ifs <;> exact seated.held other old stored
    case within =>
      intro other listener found
      obtain ⟨old, stored, rfl⟩ := Table.get?_modify_eq_some found
      split_ifs <;> exact seated.within other old stored

/-- Every turn keeps the account of places. -/
theorem turn (seated : before.Seated) (turn : Turn application before actions completed said after) :
    after.Seated := by
  have asking : (before.asking application actions).Seated := ⟨seated.held, seated.within⟩
  cases turn with
  | aside around kept => exact asking.aside kept
  | accepted unused listens place => exact seated.accept unused listens place _
  | connected known waiting =>
    exact asking.setSession known rfl (by simp [Session.isLive, waiting])
  | refused known waiting => exact seated.vacate known (by simp [Session.isLive, waiting]) rfl
  | served known service =>
    obtain ⟨listener, -, stage⟩ := service.keeps
    exact asking.setSession known listener (by rw [Session.isLive, Session.isLive, stage])
  | left known reading unread =>
    refine asking.setSession known rfl ?_
    have running := Session.running_of_reading reading
    simp [Session.isLive, running]
  | released known leaving carried =>
    exact asking.vacate known (by simp [Session.isLive, leaving]) rfl

end Seated

end Server

end Gateway
