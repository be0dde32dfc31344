import Gateway.Proofs.Channels.Move
import Mathlib.Logic.Function.Iterate
import Mathlib.Logic.Relation

/-! # How far closing reaches

A connection that closes takes others with it: those that some subscriber closes when it is told, and
whatever these take with them in turn. The relation may have cycles, and a connection that is asked to
close again does nothing. So exactly those connections fall that are reached from the one that is closed
through connections that were active. The induction is on the agenda: what falls in the rest of a close
is reached from what the agenda still asks for, through connections that are active by then, and a path
through the connection that has just closed can start anew behind its last visit there. Along the way
each subscriber is told of each connection that falls exactly once.
-/

namespace Gateway.Channels

open CloseTask

/-- The channels and the agenda after the first task of an agenda. -/
def tick : Channels × List CloseTask → Channels × List CloseTask
  | (channels, []) => (channels, [])
  | (channels, .close id :: rest) =>
    if channels.isActive id then
      (channels.deactivate id, deliveries channels.subscribers id ++ rest)
    else (channels, rest)
  | (channels, .deliver subscriber id :: rest) =>
    let told := channels.announce [.closed subscriber.label id]
    match subscriber.reaction with
    | .ignore => (told, rest)
    | .close targets => (told, (targets id).map .close ++ rest)
    | .retirePairs => (told.retirePairsOf id, rest)

/-- The weight of an agenda and of what its channels owe. -/
def debt (state : Channels × List CloseTask) : Nat := state.1.owed + totalWeight state.2

/-- Every task pays off a part of the debt. -/
theorem debt_tick_lt (channels : Channels) (task : CloseTask) (rest : List CloseTask) :
    debt (tick (channels, task :: rest)) < debt (channels, task :: rest) := by
  cases task with
  | close id =>
    cases active : channels.isActive id with
    | true =>
      have spent := owed_deactivate active
      simp only [tick, active, ↓reduceIte, debt, totalWeight, totalWeight_append, weight]
      omega
    | false =>
      simp only [tick, active, Bool.false_eq_true, ↓reduceIte, debt, totalWeight, weight]
      omega
  | deliver subscriber id =>
    simp only [tick, debt, totalWeight, weight]
    cases subscriber.reaction with
    | ignore | retirePairs =>
      simp only [owed_retirePairsOf, owed_announce]
      omega
    | close targets =>
      simp only [totalWeight_append, totalWeight_closes, owed_announce]
      omega

/-- The rest of a close does not depend on how much of it is done already. -/
theorem work_tick (state : Channels × List CloseTask) :
    (tick state).1.work (tick state).2 = state.1.work state.2 := by
  obtain ⟨channels, _ | ⟨task, rest⟩⟩ := state
  · rfl
  · cases task with
    | close id =>
      rw [work]
      simp only [tick]
      split_ifs <;> rfl
    | deliver subscriber id =>
      simp only [tick]
      cases reaction : subscriber.reaction with
      | ignore => rw [work_ignore reaction]
      | close targets => rw [work_close reaction]
      | retirePairs => rw [work_retirePairs reaction]

/-- An agenda is worked off in at most as many steps as its debt. -/
theorem work_eq_iterate_tick (state : Channels × List CloseTask) :
    ∃ steps ≤ debt state, tick^[steps] state = (state.1.work state.2, []) := by
  induction pays : debt state using Nat.strongRecOn generalizing state with
  | _ amount ih =>
    subst pays
    obtain ⟨channels, _ | ⟨task, rest⟩⟩ := state
    · refine ⟨0, Nat.zero_le _, ?_⟩
      rw [work]
      rfl
    · have less := debt_tick_lt channels task rest
      obtain ⟨steps, few, done⟩ := ih _ less _ rfl
      refine ⟨steps + 1, by omega, ?_⟩
      rw [Function.iterate_succ_apply, done, work_tick]

/-- Whether some subscriber closes the second connection when it is told of the first one. -/
def Asks (channels : Channels) (first second : ConnectionId) : Prop :=
  ∃ subscriber ∈ channels.subscribers, ∃ targets,
    subscriber.reaction = .close targets ∧ second ∈ targets first

/-- Whether the closing of the first connection closes the second one as well. -/
def Takes (channels : Channels) (first second : ConnectionId) : Prop :=
  channels.Asks first second ∧ channels.isActive second = true

/-- Whether a connection is reached from another one through active connections, both included. -/
def Falls (channels : Channels) (first other : ConnectionId) : Prop :=
  channels.isActive first = true ∧ Relation.ReflTransGen channels.Takes first other

/-- Whether a task asks for a connection to be closed. -/
def Wants (id : ConnectionId) : CloseTask → Prop
  | .close other => other = id
  | .deliver subscriber told => ∃ targets, subscriber.reaction = .close targets ∧ id ∈ targets told

/-- Whether an agenda asks for a connection to be closed. -/
def Wanted (agenda : List CloseTask) (id : ConnectionId) : Prop := ∃ task ∈ agenda, Wants id task

section

variable {channels : Channels} {first second : ConnectionId}

theorem Falls.active (falls : channels.Falls first second) : channels.isActive second = true := by
  obtain ⟨active, path⟩ := falls
  cases path with
  | refl => exact active
  | tail _ last => exact last.2

theorem Falls.congr {after : Channels} (subscribers : after.subscribers = channels.subscribers)
    (active : after.isActive = channels.isActive) : after.Falls = channels.Falls := by
  unfold Falls Takes Asks
  rw [subscribers, active]

/-- Whoever is reached while some connection is closed is reached while it is open. -/
theorem Falls.of_deactivate {id : ConnectionId} (falls : (channels.deactivate id).Falls first second) :
    channels.Falls first second := by
  have fades : ∀ other, (channels.deactivate id).isActive other = true →
      channels.isActive other = true := (closing_deactivate channels id).fades
  exact ⟨fades first falls.1,
    Relation.ReflTransGen.mono (fun _ _ step => ⟨step.1, fades _ step.2⟩) _ _ falls.2⟩

/-- A path to another connection than the one that closes avoids it from the start, or starts anew
behind its last visit there. -/
theorem Falls.avoid {id : ConnectionId} (falls : channels.Falls first second) (differs : second ≠ id) :
    (channels.deactivate id).Falls first second ∨
      ∃ next, channels.Asks id next ∧ (channels.deactivate id).Falls next second := by
  have stays : ∀ other, channels.isActive other = true → other ≠ id →
      (channels.deactivate id).isActive other = true := by
    intro other active distinct
    simpa [isActive_deactivate, distinct] using active
  obtain ⟨active, path⟩ := falls
  induction path with
  | refl => exact .inl ⟨stays first active differs, .refl⟩
  | @tail middle last _ step ih =>
    have goesOn : ∀ start, (channels.deactivate id).Falls start middle →
        (channels.deactivate id).Falls start last := fun start reached =>
      ⟨reached.1, reached.2.tail ⟨step.1, stays last step.2 differs⟩⟩
    by_cases visit : middle = id
    · exact .inr ⟨last, visit ▸ step.1, stays last step.2 differs, .refl⟩
    · obtain reached | ⟨next, asked, reached⟩ := ih visit
      · exact .inl (goesOn first reached)
      · exact .inr ⟨next, asked, goesOn next reached⟩

theorem wanted_deliveries {id : ConnectionId} :
    Wanted (deliveries channels.subscribers id) second ↔ channels.Asks id second := by
  simp [Wanted, deliveries, Wants, Asks]

end

theorem wanted_append {first second : List CloseTask} {id : ConnectionId} :
    Wanted (first ++ second) id ↔ Wanted first id ∨ Wanted second id := by
  simp only [Wanted, List.mem_append, or_and_right, exists_or]

theorem wanted_cons {task : CloseTask} {rest : List CloseTask} {id : ConnectionId} :
    Wanted (task :: rest) id ↔ Wants id task ∨ Wanted rest id := by
  simp [Wanted]

theorem wanted_closes {ids : List ConnectionId} {id : ConnectionId} :
    Wanted (ids.map .close) id ↔ id ∈ ids := by
  simp [Wanted, Wants]

/-- What falls while an agenda is worked off is what is reached from the connections that it asks for.
-/
theorem isActive_work_eq_false_iff {channels : Channels} {agenda : List CloseTask}
    {other : ConnectionId} (active : channels.isActive other = true) :
    (channels.work agenda).isActive other = false ↔
      ∃ start, Wanted agenda start ∧ channels.Falls start other := by
  fun_induction work channels agenda with
  | case1 channels => simp [active, Wanted]
  | case2 channels id rest opened ih =>
    by_cases same : other = id
    · subst same
      have fallen : (channels.deactivate other).isActive other = false := by
        simp [isActive_deactivate]
      have faded := (closing_work (channels.deactivate other)
        (deliveries channels.subscribers other ++ rest)).fades other
      refine iff_of_true ?_ ⟨other, wanted_cons.mpr (.inl rfl), active, .refl⟩
      rw [Bool.eq_false_iff] at fallen ⊢
      exact fun still => fallen (faded still)
    · have stays : (channels.deactivate id).isActive other = true := by
        simpa [isActive_deactivate, same] using active
      rw [ih stays]
      simp only [wanted_append, wanted_deliveries, wanted_cons, Wants]
      constructor
      · rintro ⟨start, asked | wanted, falls⟩
        · have falls := falls.of_deactivate
          exact ⟨id, .inl rfl, opened, .head ⟨asked, falls.1⟩ falls.2⟩
        · exact ⟨start, .inr wanted, falls.of_deactivate⟩
      · rintro ⟨start, wanted, falls⟩
        obtain avoids | ⟨next, asked, anew⟩ := falls.avoid same
        · obtain rfl | wanted := wanted
          · simp [Falls, isActive_deactivate] at avoids
          · exact ⟨start, .inr wanted, avoids⟩
        · exact ⟨next, .inl asked, anew⟩
  | case3 channels id rest shut ih =>
    rw [ih active]
    simp only [wanted_cons, Wants]
    constructor
    · rintro ⟨start, wanted, falls⟩
      exact ⟨start, .inr wanted, falls⟩
    · rintro ⟨start, rfl | wanted, falls⟩
      · exact absurd falls.1 shut
      · exact ⟨start, wanted, falls⟩
  | case4 channels subscriber id rest told ignores ih =>
    rw [ih active]
    simp only [wanted_cons, Wants, ignores, reduceCtorEq, false_and, exists_false, false_or]
    rfl
  | case5 channels subscriber id rest told targets closes ih =>
    rw [ih active]
    simp only [wanted_append, wanted_closes, wanted_cons, Wants, closes, Reaction.close.injEq,
      exists_eq_left']
    rfl
  | case6 channels subscriber id rest told looks ih =>
    have same : (told.retirePairsOf id).isActive = channels.isActive := isActive_retireAll _ told
    have falls : (told.retirePairsOf id).Falls = channels.Falls :=
      Falls.congr ((closing_retirePairsOf told id).subscribers) same
    rw [ih (same ▸ active), falls]
    simp only [wanted_cons, Wants, looks, reduceCtorEq, false_and, exists_false, false_or]

/-- Whatever a connection takes with it when it closes, it is no longer active itself. -/
theorem isActive_close (channels : Channels) (id : ConnectionId) :
    (channels.close id).2.isActive id = false := by
  cases active : channels.isActive id with
  | true =>
    exact (isActive_work_eq_false_iff active).mpr ⟨id, wanted_cons.mpr (.inl rfl), active, .refl⟩
  | false =>
    rw [Bool.eq_false_iff] at active ⊢
    exact fun still => active ((closing_work channels [.close id]).fades id still)

/-- How often a subscriber of the given label has been told that a connection closed. -/
def timesTold (channels : Channels) (label : String) (id : ConnectionId) : Nat :=
  channels.journal.count (.closed label id)

/-- How many subscribers have a label, which is one if labels tell subscribers apart. -/
def audience (channels : Channels) (label : String) : Nat :=
  channels.subscribers.countP fun subscriber => subscriber.label = label

/-- Whether a task tells a subscriber of the given label that a connection closed. -/
def informs (label : String) (id : ConnectionId) : CloseTask → Bool
  | .deliver subscriber other => subscriber.label = label && other = id
  | .close _ => false

/-- How many subscribers of a label are to be told that a connection closed between two states. -/
def due (before after : Channels) (label : String) (id : ConnectionId) : Nat :=
  if before.isActive id && !after.isActive id then before.audience label else 0

theorem due_congr {before other after : Channels} {label : String} {id : ConnectionId}
    (subscribers : other.subscribers = before.subscribers)
    (active : other.isActive id = before.isActive id) :
    other.due after label id = before.due after label id := by
  rw [due, due, audience, audience, subscribers, active]

theorem countP_informs_deliveries (channels : Channels) (label : String) (id other : ConnectionId) :
    (deliveries channels.subscribers other).countP (informs label id) =
      if other = id then channels.audience label else 0 := by
  rw [deliveries, List.countP_map, audience]
  split_ifs with same
  · simp [Function.comp_def, informs, same]
  · simp [Function.comp_def, informs, same]

theorem timesTold_retire (channels : Channels) (key : Key) (label : String) (id : ConnectionId) :
    (channels.retire key).timesTold label id = channels.timesTold label id := by
  obtain ⟨pair, -, -, retired⟩ | ⟨-, same⟩ := retire_cases channels key
  · rw [retired]
    simp [timesTold, unpair, announce]
  · rw [same]

theorem timesTold_retireAll (keys : List Key) (channels : Channels) (label : String)
    (id : ConnectionId) :
    (keys.foldl retire channels).timesTold label id = channels.timesTold label id := by
  induction keys generalizing channels with
  | nil => rfl
  | cons key rest ih => exact (ih (channels.retire key)).trans (timesTold_retire channels key label id)

theorem timesTold_announce (channels : Channels) (subscriber : Subscriber) (other : ConnectionId)
    (label : String) (id : ConnectionId) :
    (channels.announce [.closed subscriber.label other]).timesTold label id =
      channels.timesTold label id + if informs label id (.deliver subscriber other) then 1 else 0 := by
  simp [timesTold, announce, List.count_append, List.count_singleton, informs]

/-- While an agenda is worked off, everyone is told what the agenda says, and of each connection that
closes. -/
theorem timesTold_work (channels : Channels) (agenda : List CloseTask) (label : String)
    (id : ConnectionId) :
    (channels.work agenda).timesTold label id =
      channels.timesTold label id + agenda.countP (informs label id) +
        channels.due (channels.work agenda) label id := by
  fun_induction work channels agenda with
  | case1 channels => simp [due]
  | case2 channels other rest opened ih =>
    have told : (channels.deactivate other).timesTold label id = channels.timesTold label id := rfl
    rw [ih, told, List.countP_append, countP_informs_deliveries,
      List.countP_cons_of_neg (by simp [informs])]
    by_cases same : other = id
    · subst same
      have faded := (closing_work (channels.deactivate other)
        (deliveries channels.subscribers other ++ rest)).fades other
      simp only [isActive_deactivate, decide_true, Bool.not_true, Bool.false_and,
        Bool.false_eq_true, imp_false] at faded
      simp only [due, isActive_deactivate, faded, opened]
      simp
      omega
    · have stays : (channels.deactivate other).isActive id = channels.isActive id := by
        simp [isActive_deactivate, Ne.symm same]
      have sameDue : ∀ after, (channels.deactivate other).due after label id =
          channels.due after label id := fun _ => due_congr rfl stays
      rw [if_neg same, Nat.zero_add, sameDue]
  | case3 channels other rest shut ih =>
    rw [ih, List.countP_cons_of_neg (by simp [informs])]
  | case4 channels subscriber other rest told ignores ih =>
    have due : told.due = channels.due := rfl
    rw [ih, timesTold_announce, due, List.countP_cons]
    omega
  | case5 channels subscriber other rest told targets closes ih =>
    have due : told.due = channels.due := rfl
    have closes : ((targets other).map CloseTask.close).countP (informs label id) = 0 := by
      simp [List.countP_map, Function.comp_def, informs]
    rw [ih, timesTold_announce, due, List.countP_append, closes, List.countP_cons]
    omega
  | case6 channels subscriber other rest told looks ih =>
    have sameDue : ∀ after, (told.retirePairsOf other).due after label id =
        channels.due after label id := fun _ =>
      due_congr (closing_retirePairsOf told other).subscribers
        (congrFun (isActive_retireAll _ told) id)
    rw [ih, sameDue, retirePairsOf, timesTold_retireAll, timesTold_announce, List.countP_cons]
    omega

/-- Whatever is yet to be told is true already. -/
def Late (state : Channels × List CloseTask) : Prop :=
  ∀ subscriber id, .deliver subscriber id ∈ state.2 → state.1.isActive id = false

theorem late_tick {state : Channels × List CloseTask} (late : Late state) : Late (tick state) := by
  obtain ⟨channels, _ | ⟨task, rest⟩⟩ := state
  · exact late
  · have later : ∀ subscriber id, .deliver subscriber id ∈ rest → channels.isActive id = false :=
      fun subscriber id member => late subscriber id (List.mem_cons_of_mem _ member)
    cases task with
    | close id =>
      simp only [tick]
      split_ifs
      · intro subscriber other member
        rw [isActive_deactivate]
        obtain new | old := List.mem_append.mp member
        · obtain ⟨_, -, made⟩ := List.mem_map.mp new
          cases made
          simp
        · simp [later subscriber other old]
      · exact later
    | deliver subscriber id =>
      simp only [tick]
      cases subscriber.reaction with
      | ignore => exact later
      | close targets =>
        intro other told member
        obtain new | old := List.mem_append.mp member
        · obtain ⟨_, -, made⟩ := List.mem_map.mp new
          cases made
        · exact later other told old
      | retirePairs =>
        intro other told member
        rw [retirePairsOf, isActive_retireAll]
        exact later other told member

theorem late_iterate_tick (channels : Channels) (id : ConnectionId) (steps : Nat) :
    Late (tick^[steps] (channels, [.close id])) := by
  induction steps with
  | zero => exact fun subscriber other member => nomatch List.mem_singleton.mp member
  | succ steps ih =>
    rw [Function.iterate_succ_apply']
    exact late_tick ih

/-- Whether a connection is there and closed. -/
def isClosed (channels : Channels) (id : ConnectionId) : Bool :=
  (channels.connection? id).any fun connection => !connection.active

theorem isClosed_eq (channels : Channels) (id : ConnectionId) :
    channels.isClosed id = ((channels.connection? id).isSome && !channels.isActive id) := by
  rw [isClosed, isActive]
  cases channels.connection? id <;> rfl

theorem isSome_of_isActive {channels : Channels} {id : ConnectionId}
    (active : channels.isActive id = true) : (channels.connection? id).isSome = true := by
  rw [isActive] at active
  cases found : channels.connection? id with
  | none => simp [found] at active
  | some connection => rfl

/-- How often the subscribers of a label should have been told that a connection closed. -/
def expected (channels : Channels) (label : String) (id : ConnectionId) : Nat :=
  if channels.isClosed id then channels.audience label else 0

/-- How a state comes from another one where nobody arrives: activity only fades, and that is told. -/
structure Fades (before after : Channels) : Prop where
  audience : after.audience = before.audience
  known : ∀ id, (after.connection? id).isSome = (before.connection? id).isSome
  active : ∀ id, after.isActive id = true → before.isActive id = true
  told : ∀ label id,
    after.timesTold label id = before.timesTold label id + before.due after label id

namespace Fades

theorem refl (channels : Channels) : Fades channels channels where
  audience := rfl
  known _ := rfl
  active _ active := active
  told label id := by simp [due]

theorem trans {first second third : Channels} (one : Fades first second)
    (two : Fades second third) : Fades first third where
  audience := two.audience.trans one.audience
  known id := (two.known id).trans (one.known id)
  active id active := one.active id (two.active id active)
  told label id := by
    have before := one.active id
    have after := two.active id
    rw [two.told, one.told]
    simp only [due, one.audience]
    cases opened : first.isActive id <;> cases stayed : second.isActive id <;>
      cases stays : third.isActive id <;> simp_all

/-- Nothing is told where nothing closes. -/
theorem of_same {before after : Channels} (audience : after.audience = before.audience)
    (known : ∀ id, (after.connection? id).isSome = (before.connection? id).isSome)
    (active : after.isActive = before.isActive)
    (told : ∀ label id, after.timesTold label id = before.timesTold label id) :
    Fades before after where
  audience := audience
  known := known
  active id held := active ▸ held
  told label id := by simp [told, due, active]

theorem of_tweaks {before after : Channels} (tweaks : Tweaks before after) : Fades before after := by
  apply of_same
  · funext label
    rw [Channels.audience, Channels.audience, tweaks.subscribers]
  · intro id
    rw [← Option.isSome_map (f := Connection.info), tweaks.known, Option.isSome_map]
  · exact tweaks.active
  · intro label id
    rw [timesTold, timesTold, tweaks.journal]

/-- What should have been told grows by what is told. -/
theorem balance {before after : Channels} (fades : Fades before after) (label : String)
    (id : ConnectionId) :
    after.timesTold label id + before.expected label id =
      before.timesTold label id + after.expected label id := by
  have known := fades.known id
  have active := fades.active id
  have there : before.isActive id = true → (before.connection? id).isSome = true :=
    isSome_of_isActive
  rw [fades.told, expected, expected, due, fades.audience, isClosed_eq, isClosed_eq, known]
  cases found : (before.connection? id).isSome <;> cases opened : before.isActive id <;>
    cases stays : after.isActive id <;> simp_all

end Fades

theorem fades_work (channels : Channels) (id : ConnectionId) :
    Fades channels (channels.work [.close id]) where
  audience := by
    funext label
    rw [audience, audience, (closing_work channels [.close id]).subscribers]
  known other := by
    have known := (closing_work channels [.close id]).known other
    rw [← Option.isSome_map (f := Connection.info), known, Option.isSome_map]
  active := (closing_work channels [.close id]).fades
  told label other := by simp [timesTold_work, informs]

theorem fades_retire (channels : Channels) (key : Key) : Fades channels (channels.retire key) := by
  apply Fades.of_same
  · funext label
    rw [audience, audience, subscribers_retire]
  · intro id
    rw [connection?, connection?, connections_retire]
  · exact isActive_retireAll [key] channels
  · exact timesTold_retire channels key

theorem fades_join (channels : Channels) (key : Key) (side : Side) (id : ConnectionId) :
    Fades channels (channels.join key side id).2 := by
  have closing : ∀ (seated : Channels) former, Fades seated (seated.closeFormer former id) := by
    intro seated former
    rw [closeFormer.eq_def]
    split
    · exact .refl seated
    · split_ifs
      · exact fades_work seated _
      · exact .refl seated
  rw [join]
  split_ifs
  · have seated : ∀ pairs : Registry Key Pair, Fades channels { channels with pairs := pairs } :=
      fun _ => .of_same rfl (fun _ => rfl) rfl fun _ _ => rfl
    have settled := (seated (channels.pairs.amend channels.now key Pair.empty fun pair =>
      (pair.occupant side, pair.occupy side id)).registry).trans (closing _
        (channels.pairs.amend channels.now key Pair.empty fun pair =>
          (pair.occupant side, pair.occupy side id)).result)
    simp only
    split_ifs
    · exact settled
    · exact settled.trans (fades_retire _ key)
  · exact .refl channels

theorem fades_link (channels : Channels) (first other : ConnectionId) :
    Fades channels (channels.linkClosing first other) := by
  apply Fades.of_same
  · funext label
    rw [audience, audience, linkClosing, List.countP_map]
    refine List.countP_congr fun subscriber _ => ?_
    simp only [Function.comp_def]
    split <;> rfl
  · exact fun _ => rfl
  · rfl
  · exact fun _ _ => rfl

/-- Whether a move brings a connection or a subscriber. -/
def Move.isNew : Move → Bool
  | .accept _ _ _ | .subscribe _ => true
  | _ => false

theorem fades_perform (channels : Channels) {move : Move} (old : move.isNew = false) :
    Fades channels (channels.perform move) := by
  cases move with
  | accept _ _ _ | subscribe _ => cases old
  | link first other => exact fades_link channels first other
  | tell desk notice =>
    refine .of_same rfl (fun _ => rfl) rfl fun label id => ?_
    cases notice <;> simp [perform, timesTold, announce, Hub.deskNotice]
  | close id => exact fades_work channels id
  | joinClear key id => exact fades_join channels key .clear id
  | joinEncrypted key id =>
    rw [perform, joinEncrypted]
    split_ifs
    · exact fades_join channels key .encrypted id
    · exact .refl channels
  | _ => exact .of_tweaks (tweaks_perform channels rfl)

/-- A connection that arrives is not closed, and nobody has been told of it. -/
theorem balance_accept (channels : Channels) (id other : ConnectionId) (info : ConnectionInfo)
    (buffer : Nat) (label : String) :
    (channels.perform (.accept id info buffer)).timesTold label other = channels.timesTold label other ∧
      (channels.perform (.accept id info buffer)).expected label other =
        channels.expected label other := by
  rw [perform]
  split_ifs with known
  · exact ⟨rfl, rfl⟩
  · refine ⟨rfl, ?_⟩
    have closed : (channels.openConnection id info buffer).isClosed other = channels.isClosed other := by
      rw [isClosed, isClosed, connection?, openConnection, Table.get?_insert]
      split_ifs with same
      · rw [Option.not_isSome_iff_eq_none] at known
        simp [← same, known, Connection.opened]
      · rfl
    rw [expected, closed]
    rfl

/-- Nobody is told more than there is to tell. -/
def Discreet (channels : Channels) : Prop :=
  ∀ label id, channels.timesTold label id ≤ channels.expected label id

theorem Discreet.perform {channels : Channels} (discreet : channels.Discreet) (move : Move) :
    (channels.perform move).Discreet := by
  intro label id
  have before := discreet label id
  cases brings : move.isNew with
  | false =>
    have balance := (fades_perform channels brings).balance label id
    omega
  | true =>
    cases move with
    | accept other info buffer =>
      obtain ⟨told, same⟩ := balance_accept channels other id info buffer label
      omega
    | subscribe subscriber =>
      have more : channels.audience label ≤ (channels.perform (.subscribe subscriber)).audience label := by
        simp [Channels.perform, audience]
      refine Nat.le_trans before ?_
      rw [expected, expected]
      change (if channels.isClosed id then _ else 0) ≤ if channels.isClosed id then _ else 0
      split_ifs
      · exact more
      · exact Nat.le_refl 0
    | _ => cases brings

theorem Discreet.run {channels : Channels} (discreet : channels.Discreet) (moves : List Move) :
    (channels.run moves).Discreet := by
  induction moves generalizing channels with
  | nil => exact discreet
  | cons move rest ih => exact ih (discreet.perform move)

/-- In every state, closing a connection comes to an end, after no more tasks than the subscribers of
the active connections can ask for. It reports whether the connection was active. What closes with it
is what is reached from it through active connections, whatever cycles there are, and every subscriber
is told of these connections once each and of no others, of each only when it is inactive already. In
no run from the start is anyone told twice of a connection. -/
theorem closing_takes_what_it_reaches :
    (∀ (channels : Channels) (id : ConnectionId),
      let start := (channels, [CloseTask.close id])
      let after := (channels.close id).2
      (∃ steps ≤ channels.owed + 1, tick^[steps] start = (after, [])) ∧
        (channels.close id).1 = channels.isActive id ∧
        (∀ other, channels.isActive other = true ∧ after.isActive other = false ↔
          channels.Falls id other) ∧
        (∀ other, after.isActive other = true → channels.isActive other = true) ∧
        channels.journal <+: after.journal ∧
        (∀ label other, channels.Falls id other →
          after.timesTold label other = channels.timesTold label other + channels.audience label) ∧
        (∀ label other, ¬ channels.Falls id other →
          after.timesTold label other = channels.timesTold label other) ∧
        ∀ steps subscriber other rest, (tick^[steps] start).2 = .deliver subscriber other :: rest →
          (tick^[steps] start).1.isActive other = false) ∧
    ∀ (subscribers : List Subscriber) (pendingTtl padSize : Nat) (entropy : Entropy)
      (moves : List Move) (label : String) (id : ConnectionId),
      let channels := (Channels.initial subscribers pendingTtl padSize entropy).run moves
      channels.timesTold label id ≤ channels.audience label := by
  refine ⟨fun channels id => ?_, fun subscribers pendingTtl padSize entropy moves label id => ?_⟩
  · intro start after
    have closing := closing_work channels [.close id]
    have fallen : ∀ other, channels.isActive other = true ∧ after.isActive other = false ↔
        channels.Falls id other := by
      intro other
      constructor
      · rintro ⟨active, gone⟩
        obtain ⟨first, wanted, falls⟩ := (isActive_work_eq_false_iff active).mp gone
        obtain rfl : id = first := by simpa [Wanted, Wants] using wanted
        exact falls
      · intro falls
        exact ⟨falls.active, (isActive_work_eq_false_iff falls.active).mpr
          ⟨id, by simp [Wanted, Wants], falls⟩⟩
    have fades : Fades channels after := fades_work channels id
    refine ⟨work_eq_iterate_tick start, rfl, fallen, closing.fades, ?_, ?_, ?_, ?_⟩
    · obtain ⟨told, journal, -⟩ := closing.fates
      exact ⟨told, journal.symm⟩
    · intro label other falls
      obtain ⟨active, gone⟩ := (fallen other).mpr falls
      refine (fades.told label other).trans ?_
      rw [due, active, gone]
      rfl
    · intro label other spared
      have stays : (channels.isActive other && !after.isActive other) = false := by
        rw [Bool.eq_false_iff]
        intro dropped
        simp only [Bool.and_eq_true, Bool.not_eq_true'] at dropped
        exact spared ((fallen other).mp dropped)
      refine (fades.told label other).trans ?_
      rw [due, stays]
      rfl
    · intro steps subscriber other rest next
      exact late_iterate_tick channels id steps subscriber other (next ▸ List.mem_cons_self)
  · have nothing : (Channels.initial subscribers pendingTtl padSize entropy).Discreet :=
      fun _ _ => Nat.zero_le _
    refine Nat.le_trans (nothing.run moves label id) ?_
    rw [expected]
    split_ifs
    · exact Nat.le_refl _
    · exact Nat.zero_le _

end Gateway.Channels
