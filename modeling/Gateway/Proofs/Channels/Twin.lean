import Gateway.Proofs.Channels.Closing
import Gateway.Proofs.Dispatch

/-! # Channels with the same pads

Looking at the active pad of a pair marks it as used and changes nothing else, and as active pads do
not expire the mark has no effect. Channels that differ in such marks alone are *twins*. Closing
connections, joining pairs and the two services of the pad exchange have the same results on twins and
leave twins.
-/

namespace Gateway

namespace Channels

/-- The channels with other active pads. -/
def withActive (channels : Channels) (active : Registry Key Bytes) : Channels :=
  { channels with pads := { channels.pads with active := active } }

/-- The second channels are the first ones up to when active pads were last used. -/
inductive Twin (channels : Channels) : Channels → Prop where
  | intro {active : Registry Key Bytes} (alike : channels.pads.active.Alike active) :
    Twin channels (channels.withActive active)

namespace Twin

variable {one two three : Channels}

theorem refl (permanent : one.pads.active.ttl = none) : one.Twin one := .intro (.refl permanent)

theorem trans (first : one.Twin two) (second : two.Twin three) : one.Twin three := by
  cases first with
  | intro alike =>
    cases second with
    | intro alike' => exact .intro (alike.trans alike')

theorem isActive (twin : one.Twin two) : two.isActive = one.isActive := by cases twin; rfl

theorem deactivate (twin : one.Twin two) (id : ConnectionId) :
    (one.deactivate id).Twin (two.deactivate id) := by
  cases twin with
  | intro alike => exact .intro alike

theorem announce (twin : one.Twin two) (notices : List Notice) :
    (one.announce notices).Twin (two.announce notices) := by
  cases twin with
  | intro alike => exact .intro alike

theorem retire (twin : one.Twin two) (key : Key) : (one.retire key).Twin (two.retire key) := by
  cases twin with
  | @intro active alike =>
    simp only [Channels.retire]
    have step : ((one.withActive active).pairs.removeWhen key fun pair =>
        !pair.isAlive (one.withActive active).isActive) =
          one.pairs.removeWhen key fun pair => !pair.isAlive one.isActive := rfl
    rw [step]
    cases (one.pairs.removeWhen key fun pair => !pair.isAlive one.isActive).result with
    | none => exact .intro alike
    | some pair => exact .intro (alike.remove one.now key)

theorem retireAll (twin : one.Twin two) (keys : List Key) :
    (keys.foldl Channels.retire one).Twin (keys.foldl Channels.retire two) := by
  induction keys generalizing one two with
  | nil => exact twin
  | cons key rest ih => exact ih (twin.retire key)

theorem retirePairsOf (twin : one.Twin two) (id : ConnectionId) :
    (one.retirePairsOf id).Twin (two.retirePairsOf id) := by
  have keys : two.pairs = one.pairs := by cases twin; rfl
  rw [Channels.retirePairsOf, Channels.retirePairsOf, keys]
  exact twin.retireAll _

theorem work (twin : one.Twin two) (agenda : List CloseTask) :
    (one.work agenda).Twin (two.work agenda) := by
  induction one, agenda using Channels.work.induct generalizing two with
  | case1 channels =>
    rw [Channels.work, Channels.work]
    exact twin
  | case2 channels id rest active ih =>
    have active' : two.isActive id = true := twin.isActive ▸ active
    have subscribers : two.subscribers = channels.subscribers := by cases twin; rfl
    rw [Channels.work, Channels.work, dif_pos active, dif_pos active', subscribers]
    exact ih (twin.deactivate id)
  | case3 channels id rest inactive ih =>
    have inactive' : ¬ two.isActive id = true := twin.isActive ▸ inactive
    rw [Channels.work, Channels.work, dif_neg inactive, dif_neg inactive']
    exact ih twin
  | case4 channels subscriber id rest told ignores =>
    rename_i ih
    rw [work_ignore ignores, work_ignore ignores]
    exact ih (twin.announce _)
  | case5 channels subscriber id rest told targets closes =>
    rename_i ih
    rw [work_close closes, work_close closes]
    exact ih (twin.announce _)
  | case6 channels subscriber id rest told looks =>
    rename_i ih
    rw [work_retirePairs looks, work_retirePairs looks]
    exact ih ((twin.announce _).retirePairsOf id)

theorem closeFormer (twin : one.Twin two) (former : Option ConnectionId) (id : ConnectionId) :
    (one.closeFormer former id).Twin (two.closeFormer former id) := by
  cases former with
  | none => exact twin
  | some former =>
    simp only [Channels.closeFormer, twin.isActive]
    split_ifs
    · exact twin.work [.close former]
    · exact twin

theorem swapPairs (twin : one.Twin two) (pairs : Registry Key Pair) :
    Twin { one with pairs := pairs } { two with pairs := pairs } := by
  cases twin with
  | intro alike => exact .intro alike

/-- So does the last look at a pair whose newcomer did not survive an eviction. -/
theorem retireUnlessActive (twin : one.Twin two) (key : Key) (id : ConnectionId) :
    Twin (if one.isActive id then one else one.retire key)
      (if two.isActive id then two else two.retire key) := by
  rw [twin.isActive]
  split_ifs
  · exact twin
  · exact twin.retire key

end Twin

theorem respects_join (key : Key) (side : Side) (id : ConnectionId) :
    Respects Twin fun channels => channels.join key side id := by
  rintro one _ ⟨alike⟩
  rename_i active
  have twin : one.Twin (one.withActive active) := .intro alike
  by_cases joins : one.isActive id = true
  · have joins' : (one.withActive active).isActive id = true := joins
    simp only [join, if_pos joins, if_pos joins', true_and]
    exact ((twin.swapPairs _).closeFormer _ id).retireUnlessActive key id
  · have joins' : ¬ (one.withActive active).isActive id = true := joins
    simp only [join, if_neg joins, if_neg joins', true_and]
    exact twin

theorem respects_joinEncrypted (key : Key) (id : ConnectionId) :
    Respects Twin fun channels => channels.joinEncrypted key id := by
  intro one two twin
  have secure : two.isSecure id = one.isSecure id := by cases twin; rfl
  simp only [joinEncrypted, secure]
  split_ifs
  · exact respects_join key .encrypted id twin
  · exact ⟨rfl, twin⟩

theorem respects_newPendingPad (key : Key) :
    Respects Twin fun channels => channels.newPendingPad key := by
  rintro one _ ⟨alike⟩
  rename_i active
  by_cases sized : one.padSize = 0
  · have sized' : (one.withActive active).padSize = 0 := sized
    simp only [newPendingPad, generatePad, Pad.generate, if_pos sized, if_pos sized', true_and]
    exact .intro alike
  · have sized' : ¬ (one.withActive active).padSize = 0 := sized
    simp only [newPendingPad, generatePad, Pad.generate, if_neg sized, if_neg sized']
    exact ⟨rfl, .intro alike⟩

theorem respects_activatePad (key : Key) :
    Respects Twin fun channels => channels.activatePad key := by
  rintro one _ ⟨alike⟩
  rename_i active
  have pending : (one.withActive active).pads.pending.remove (one.withActive active).now key =
      one.pads.pending.remove one.now key := rfl
  simp only [activatePad, PadStore.activate, pending]
  cases (one.pads.pending.remove one.now key).result with
  | none => exact ⟨rfl, .intro alike⟩
  | some pad => exact ⟨rfl, .intro (alike.put one.now key pad)⟩

theorem respects_processRequest (resolve : Identity → Option ConnectionId) (context : Context)
    (envelope : Envelope) :
    Respects Twin (PadExchange.processRequest resolve context envelope) := by
  intro one two twin
  simp only [PadExchange.processRequest]
  cases PadExchange.requestedPair? envelope with
  | none => exact ⟨rfl, twin⟩
  | some name =>
    cases envelope.identity.bind resolve with
    | none => exact ⟨rfl, twin⟩
    | some id =>
      obtain ⟨joins, joined⟩ := respects_joinEncrypted (.name name) id twin
      simp only at joins joined ⊢
      rcases before : one.joinEncrypted (.name name) id with ⟨result, one⟩
      rcases after : two.joinEncrypted (.name name) id with ⟨result', two⟩
      rw [before, after] at joins joined
      obtain rfl : result' = result := joins
      rcases result' with error | _
      · cases error <;> exact ⟨rfl, joined⟩
      · obtain ⟨makes, made⟩ := respects_newPendingPad (.name name) joined
        simp only at makes made ⊢
        rcases before : one.newPendingPad (.name name) with ⟨result, one⟩
        rcases after : two.newPendingPad (.name name) with ⟨result', two⟩
        rw [before, after] at makes made
        obtain rfl : result' = result := makes
        rcases result' with error | pad <;> exact ⟨rfl, made⟩

theorem respects_processAck (context : Context) (envelope : Envelope) :
    Respects Twin (PadExchange.processAck context envelope) := by
  intro one two twin
  simp only [PadExchange.processAck]
  cases envelope.addresses.client with
  | none => exact ⟨rfl, twin⟩
  | some address =>
    obtain ⟨finds, found⟩ := respects_activatePad (.name address) twin
    simp only at finds found ⊢
    rcases before : one.activatePad (.name address) with ⟨result, one⟩
    rcases after : two.activatePad (.name address) with ⟨result', two⟩
    rw [before, after] at finds found
    obtain rfl : result' = result := finds
    cases result' <;> exact ⟨rfl, found⟩

end Channels

end Gateway
