import Gateway.Channels

/-! # Closing connections

Closing a connection makes it inactive and then tells every subscriber, in order, before anything
else happens. A subscriber may close further connections, whose subscribers are told before the next
subscriber of the first one. What is still to be done is kept as an agenda, the next task first, so
a state in the middle of a close shows which deliveries are owed. The agenda is worked off because
each task uses up a piece of `owed`: the weight of the agenda and of the deliveries that the active
connections will still ask for when they close.
-/

namespace Gateway

/-- Something to be done while connections close. -/
inductive CloseTask where
  /-- Close a connection, unless it is inactive. -/
  | close (id : ConnectionId)
  /-- Tell a subscriber that a connection closed. -/
  | deliver (subscriber : Subscriber) (id : ConnectionId)

namespace CloseTask

/-- The weight of a task: a delivery weighs one more than the closes that it asks for. -/
def weight : CloseTask → Nat
  | .close _ => 1
  | .deliver subscriber id =>
    match subscriber.reaction with
    | .close targets => (targets id).length + 1
    | _ => 1

def totalWeight : List CloseTask → Nat
  | [] => 0
  | task :: rest => task.weight + totalWeight rest

theorem totalWeight_append (first second : List CloseTask) :
    totalWeight (first ++ second) = totalWeight first + totalWeight second := by
  induction first with
  | nil => simp [totalWeight]
  | cons task rest ih => simp [totalWeight, ih, Nat.add_assoc]

theorem totalWeight_closes (ids : List ConnectionId) :
    totalWeight (ids.map .close) = ids.length := by
  induction ids with
  | nil => rfl
  | cons id ids ih => simp [totalWeight, weight, ih, Nat.add_comm]

/-- The deliveries for a connection that has just closed. -/
def deliveries (subscribers : List Subscriber) (id : ConnectionId) : List CloseTask :=
  subscribers.map fun subscriber => .deliver subscriber id

/-- The weight of the deliveries that the active connections of a list will ask for. -/
def owedBy (subscribers : List Subscriber) : List (ConnectionId × Connection) → Nat
  | [] => 0
  | (id, connection) :: rest =>
    (if connection.active then totalWeight (deliveries subscribers id) else 0) +
      owedBy subscribers rest

end CloseTask

open CloseTask

namespace Channels

/-- The weight of the deliveries that the active connections will ask for. -/
def owed (channels : Channels) : Nat := owedBy channels.subscribers channels.connections.entries

theorem owedBy_deactivated_le (subscribers : List Subscriber) (id : ConnectionId)
    (entries : List (ConnectionId × Connection)) :
    owedBy subscribers (entries.map fun entry =>
        (entry.1, if entry.1 = id then entry.2.deactivated else entry.2)) ≤
      owedBy subscribers entries := by
  induction entries with
  | nil => simp [owedBy]
  | cons head rest ih =>
    obtain ⟨other, connection⟩ := head
    by_cases same : other = id
    · simp only [List.map_cons, same, ↓reduceIte, owedBy, Connection.active_deactivated,
        Bool.false_eq_true]
      omega
    · simp only [List.map_cons, same, ↓reduceIte, owedBy]
      omega

theorem owedBy_deactivated {subscribers : List Subscriber} {id : ConnectionId}
    {entries : List (ConnectionId × Connection)}
    (active : (Table.lookup id entries).any Connection.active = true) :
    owedBy subscribers (entries.map fun entry =>
        (entry.1, if entry.1 = id then entry.2.deactivated else entry.2)) +
          totalWeight (deliveries subscribers id) ≤ owedBy subscribers entries := by
  induction entries with
  | nil => simp [Table.lookup] at active
  | cons head rest ih =>
    obtain ⟨other, connection⟩ := head
    by_cases same : other = id
    · subst same
      have live : connection.active = true := by simpa [Table.lookup] using active
      have below := owedBy_deactivated_le subscribers other rest
      simp only [List.map_cons, ↓reduceIte, owedBy, Connection.active_deactivated, live,
        Bool.false_eq_true]
      omega
    · have step := ih (by simpa [Table.lookup, same] using active)
      simp only [List.map_cons, same, ↓reduceIte, owedBy]
      omega

/-- An active connection that closes no longer owes its deliveries. -/
theorem owed_deactivate {channels : Channels} {id : ConnectionId}
    (active : channels.isActive id = true) :
    (channels.deactivate id).owed + totalWeight (deliveries channels.subscribers id) ≤
      channels.owed :=
  owedBy_deactivated active

@[simp] theorem owed_announce (channels : Channels) (notices : List Notice) :
    (channels.announce notices).owed = channels.owed := rfl

@[simp] theorem connections_retire (channels : Channels) (key : Key) :
    (channels.retire key).connections = channels.connections := by
  rw [retire]
  split <;> rfl

@[simp] theorem subscribers_retire (channels : Channels) (key : Key) :
    (channels.retire key).subscribers = channels.subscribers := by
  rw [retire]
  split <;> rfl

@[simp] theorem owed_retire (channels : Channels) (key : Key) :
    (channels.retire key).owed = channels.owed := by
  simp [owed]

/-- The channels after every pair of a connection has been looked at. -/
def retirePairsOf (channels : Channels) (id : ConnectionId) : Channels :=
  (channels.pairs.keysMatching Key.le fun pair => pair.holds id).foldl retire channels

theorem owed_foldl_retire (keys : List Key) (channels : Channels) :
    (keys.foldl retire channels).owed = channels.owed := by
  induction keys generalizing channels with
  | nil => rfl
  | cons key rest ih => rw [List.foldl_cons, ih, owed_retire]

@[simp] theorem owed_retirePairsOf (channels : Channels) (id : ConnectionId) :
    (channels.retirePairsOf id).owed = channels.owed := owed_foldl_retire _ _

/-- The channels after an agenda has been worked off. -/
def work (channels : Channels) (agenda : List CloseTask) : Channels :=
  match agenda with
  | [] => channels
  | .close id :: rest =>
    if _active : channels.isActive id then
      (channels.deactivate id).work (deliveries channels.subscribers id ++ rest)
    else channels.work rest
  | .deliver subscriber id :: rest =>
    let told := channels.announce [.closed subscriber.label id]
    match reaction : subscriber.reaction with
    | .ignore => told.work rest
    | .close targets => told.work ((targets id).map .close ++ rest)
    | .retirePairs => (told.retirePairsOf id).work rest
termination_by channels.owed + totalWeight agenda
decreasing_by
  · have spent := owed_deactivate _active
    simp only [totalWeight_append, totalWeight, weight]
    omega
  · simp only [totalWeight, weight]
    omega
  · simp only [totalWeight, weight, reaction, owed_announce]
    omega
  · simp only [totalWeight_append, totalWeight_closes, totalWeight, weight, reaction, owed_announce]
    omega
  · simp only [totalWeight, weight, reaction, owed_retirePairsOf, owed_announce]
    omega

/-- Closes a connection. The result is whether it was active. -/
def close (channels : Channels) (id : ConnectionId) : Bool × Channels :=
  (channels.isActive id, channels.work [.close id])

/-- The channels where the closing of `first` also closes `other`, after what it closes already. -/
def linkClosing (channels : Channels) (first other : ConnectionId) : Channels :=
  { channels with
    subscribers := channels.subscribers.map fun subscriber =>
      match subscriber.reaction with
      | .close targets =>
        { subscriber with
          reaction := .close fun id => if id = first then targets id ++ [other] else targets id }
      | _ => subscriber }

end Channels

end Gateway
