import Gateway.Proofs.Directory
import Gateway.Proofs.Registry.Notices
import Mathlib.Data.List.Basic

/-! # Departures

A session that disconnects gives up the keys of its handle, in order, and then the key of its identity
unless that was among them. The keys to give up come from two places, and what is stored under one may
be missing, expired or another handle; releasing it makes no difference between these. Main statement:
every key given up is released once, in that order, with what it means for whoever listens, and nothing
else is touched, so a second departure finds nothing to do.
-/

namespace Gateway

namespace Key

theorem le_trans {a b c : Key} (first : a.le b = true) (second : b.le c = true) : a.le c = true := by
  cases a <;> cases b <;> cases c <;> simp only [le, decide_eq_true_eq, Bool.false_eq_true] at *
  · exact Nat.le_trans first second
  · exact String.le_trans first second
  · exact Int.le_trans first second

theorem le_total (a b : Key) : (a.le b || b.le a) = true := by
  cases a <;> cases b <;> simp only [le, Bool.or_true, Bool.true_or, Bool.or_eq_true, decide_eq_true_eq]
  · exact Nat.le_total ..
  · exact String.le_total ..
  · exact Int.le_total ..

end Key

namespace Registry

variable {V : Type v}

/-- The keys of matching values come in order. -/
theorem pairwise_keysMatching (registry : Registry Key V) (accepts : V → Bool) :
    (registry.keysMatching Key.le accepts).Pairwise fun a b => a.le b = true := by
  apply List.pairwise_mergeSort
  · exact fun _ _ _ => Key.le_trans
  · exact Key.le_total

theorem nodup_keysMatching {K : Type u} (registry : Registry K V) (le : K → K → Bool)
    (accepts : V → Bool) : (registry.keysMatching le accepts).Nodup :=
  (List.mergeSort_perm _ _).nodup_iff.mpr (registry.entries.filter _).nodup

end Registry

theorem Table.erase_of_absent {K : Type u} {V : Type v} [DecidableEq K] {table : Table K V} {key : K}
    (absent : table.get? key = none) : table.erase key = table := by
  have kept : ∀ entry ∈ table.entries, (!decide (entry.1 = key)) = true := by
    intro entry member
    rw [Bool.not_eq_true', decide_eq_false_iff_not]
    rintro rfl
    exact Table.get?_eq_none_iff.mp absent (List.mem_map_of_mem member)
  cases table
  simpa [Table.erase, Table.filter] using kept

namespace DirectoryNotice

/-- The key that is gone from the registry of handles. -/
def removed? : DirectoryNotice → Option Key
  | .removed key => some key
  | .cleanup _ => none

/-- The key for which everything is to be released. -/
def cleanup? : DirectoryNotice → Option Key
  | .removed _ => none
  | .cleanup key => some key

end DirectoryNotice

namespace Directory

variable {S : Type u} {H : Type v}

/-- What releasing a key makes known: that its entry is gone, if there was one, and that everything held
for it is to be released. -/
def farewell (directory : Directory S H) (key : Key) : List DirectoryNotice :=
  (if (directory.handles.stored? key).isSome then [.removed key] else []) ++ [.cleanup key]

theorem notices_release (directory : Directory S H) (now : Nat) (key : Key) :
    (directory.release now key).2 = directory.farewell key := by
  rw [release, farewell, Registry.removed_remove]
  split_ifs <;> rfl

theorem farewell_release_of_ne (directory : Directory S H) (now : Nat) {key other : Key}
    (differs : key ≠ other) : (directory.release now key).1.farewell other = directory.farewell other := by
  rw [farewell, farewell, stored?_eq, stored?_eq, entryAt?_release, if_neg differs]

/-- Keys that differ are released one by one as if each were the only one. -/
theorem notices_releaseAll (directory : Directory S H) (now : Nat) {keys : List Key}
    (distinct : keys.Nodup) :
    (directory.releaseAll now keys).2 = keys.flatMap directory.farewell := by
  induction keys generalizing directory with
  | nil => rfl
  | cons key rest ih =>
    obtain ⟨absent, distinct⟩ := List.nodup_cons.mp distinct
    have others : rest.flatMap (directory.release now key).1.farewell =
        rest.flatMap directory.farewell := by
      refine List.flatMap_congr fun other member => ?_
      exact directory.farewell_release_of_ne now (ne_of_mem_of_not_mem member absent).symm
    calc (directory.releaseAll now (key :: rest)).2
        = (directory.release now key).2 ++
            ((directory.release now key).1.releaseAll now rest).2 := rfl
      _ = directory.farewell key ++ rest.flatMap directory.farewell := by
            rw [notices_release, ih _ distinct, others]
      _ = (key :: rest).flatMap directory.farewell := rfl

theorem filterMap_cleanup?_farewells (directory : Directory S H) (keys : List Key) :
    (keys.flatMap directory.farewell).filterMap DirectoryNotice.cleanup? = keys := by
  induction keys with
  | nil => rfl
  | cons key rest ih =>
    rw [List.flatMap_cons, List.filterMap_append, ih, farewell]
    split_ifs <;> rfl

theorem filterMap_removed?_farewells (directory : Directory S H) (keys : List Key) :
    (keys.flatMap directory.farewell).filterMap DirectoryNotice.removed? =
      keys.filter fun key => (directory.handles.stored? key).isSome := by
  induction keys with
  | nil => rfl
  | cons key rest ih =>
    rw [List.flatMap_cons, List.filterMap_append, ih, farewell, List.filter_cons]
    split_ifs <;> rfl

variable [DecidableEq S] [BEq H]

theorem keysOf_eq (directory : Directory S H) (session : S) (handle : H) :
    directory.keysOf session handle =
      directory.handles.keysHolding Key.le handle ++
        ((directory.identity? session).map Key.system).toList.filter fun key =>
          key ∉ directory.handles.keysHolding Key.le handle := by
  rw [keysOf, identity?]
  cases directory.roster.get? session with
  | none => simp
  | some id =>
    by_cases already : Key.system id ∈ directory.handles.keysHolding Key.le handle <;> simp [already]

theorem nodup_keysOf (directory : Directory S H) (session : S) (handle : H) :
    (directory.keysOf session handle).Nodup := by
  have holding : (directory.handles.keysHolding Key.le handle).Nodup :=
    directory.handles.nodup_keysMatching ..
  rw [keysOf_eq, List.nodup_append]
  refine ⟨holding, ?_, ?_⟩
  · cases directory.identity? session with
    | none => exact List.nodup_nil
    | some id => exact List.Nodup.sublist List.filter_sublist (List.pairwise_singleton ..)
  · rintro a member b own rfl
    exact absurd member (by simpa using (List.mem_filter.mp own).2)

/-- Whoever holds nothing and is unknown gives up nothing. -/
theorem keysOf_eq_nil {directory : Directory S H} {session : S} {handle : H}
    (unknown : directory.identity? session = none)
    (nothing : ∀ key stored, directory.handles.stored? key = some stored → (stored == handle) = false) :
    directory.keysOf session handle = [] := by
  have holding : directory.handles.keysHolding Key.le handle = [] := by
    refine List.eq_nil_iff_forall_not_mem.mpr fun key member => ?_
    obtain ⟨stored, found, same⟩ := Registry.mem_keysMatching.mp member
    rw [nothing key stored found] at same
    cases same
  rw [keysOf_eq, holding, unknown]
  rfl

theorem entryAt?_disconnect (directory : Directory S H) (now : Nat) (session : S) (handle : H)
    (key : Key) :
    (directory.disconnect now session handle).1.entryAt? key =
      if key ∈ directory.keysOf session handle then none else directory.entryAt? key :=
  entryAt?_releaseAll ..

/-- Whoever departs is forgotten, and so is everybody whose identity is released and was stored, in a
directory that forgets. -/
theorem identity?_disconnect_eq (directory : Directory S H) (now : Nat) (session other : S) (handle : H) :
    (directory.disconnect now session handle).1.identity? other =
      if session = other then none
      else (directory.identity? other).filter fun id =>
        !(directory.forgetful && decide (.system id ∈ directory.keysOf session handle) &&
          (directory.handles.stored? (.system id)).isSome) := by
  have stored : ∀ key, (directory.entryAt? key).isSome = (directory.handles.stored? key).isSome :=
    fun key => Option.isSome_map.symm
  refine Option.ext fun id => ?_
  rw [disconnect, identity?_releaseAll_eq_some_iff, identity?, Roster.get?_remove]
  change _ ∧ ¬ (directory.forgetful = true ∧ _ ∧ (directory.entryAt? _).isSome = true) ↔ _
  split_ifs with same
  · simp
  · rw [Option.filter_eq_some_iff, stored]
    simp only [identity?, Bool.not_eq_true', ← Bool.not_eq_true, Bool.and_eq_true, decide_eq_true_eq,
      and_assoc]

/-- After a departure there is nothing left to give up. -/
theorem disconnect_disconnect (directory : Directory S H) (now later : Nat) (session : S) (handle : H) :
    (directory.disconnect now session handle).1.disconnect later session handle =
      ((directory.disconnect now session handle).1, []) := by
  have unknown : (directory.disconnect now session handle).1.identity? session = none := by
    rw [identity?_disconnect_eq, if_pos rfl]
  have nothing : (directory.disconnect now session handle).1.keysOf session handle = [] := by
    refine keysOf_eq_nil unknown fun key stored found => ?_
    rw [stored?_disconnect] at found
    split_ifs at found with kept
    rw [Bool.eq_false_iff]
    intro same
    refine kept ?_
    rw [keysOf_eq]
    exact List.mem_append_left _ (Registry.mem_keysMatching.mpr ⟨stored, found, same⟩)
  have same : (directory.disconnect now session handle).1.roster.remove session =
      (directory.disconnect now session handle).1.roster :=
    congrArg Roster.mk (Table.erase_of_absent unknown)
  rw [disconnect, nothing, same]
  rfl

/-- A departure gives up the keys whose handle is the departing one, expired or not, in order, and after
them the key of the session's identity, if it is not there already. For each of them, in that order,
everything held for the key is released once, and every listener of the registry is told once if
something was stored under it. No more than these keys is gone then; besides the session, only those
lose their identity who had one that was given up and stored, in a directory that forgets. To depart
once more changes nothing and tells nobody. -/
theorem disconnecting_releases_keys_once (directory : Directory S H) (now : Nat) (session : S)
    (handle : H) :
    let stored := fun key => (directory.handles.stored? key).isSome
    let own := ((directory.identity? session).map Key.system).toList
    let after := directory.disconnect now session handle
    ∃ held : List Key, (held.Pairwise fun a b => a.le b = true) ∧ held.Nodup ∧
      (∀ key, key ∈ held ↔
        ∃ reached, directory.handles.stored? key = some reached ∧ (reached == handle) = true) ∧
      let given := held ++ own.filter fun key => key ∉ held
      given.Nodup ∧
      after.2 = given.flatMap (fun key =>
        (if stored key then [.removed key] else []) ++ [.cleanup key]) ∧
      after.2.filterMap DirectoryNotice.cleanup? = given ∧
      (∀ listeners, ∀ listener < listeners, ∀ key,
        (tellEach (List.range listeners) (after.2.filterMap DirectoryNotice.removed?)).count
            (listener, key) = if key ∈ given ∧ stored key then 1 else 0) ∧
      (∀ key, after.1.entryAt? key = if key ∈ given then none else directory.entryAt? key) ∧
      (∀ other, after.1.identity? other =
        if session = other then none
        else (directory.identity? other).filter fun id =>
          !(directory.forgetful && decide (.system id ∈ given) && stored (.system id))) ∧
      ∀ later, after.1.disconnect later session handle = (after.1, []) := by
  intro stored own after
  have given : directory.keysOf session handle = _ := directory.keysOf_eq session handle
  have distinct := directory.nodup_keysOf session handle
  have notices : after.2 = (directory.keysOf session handle).flatMap directory.farewell :=
    notices_releaseAll _ now distinct
  have told : after.2.filterMap DirectoryNotice.removed? =
      (directory.keysOf session handle).filter stored := by
    rw [notices, filterMap_removed?_farewells]
  refine ⟨directory.handles.keysHolding Key.le handle, directory.handles.pairwise_keysMatching _,
    directory.handles.nodup_keysMatching .., fun key => Registry.mem_keysMatching, ?_⟩
  rw [← given]
  refine ⟨distinct, notices, ?_, fun listeners listener listens key => ?_,
    directory.entryAt?_disconnect now session handle,
    fun other => directory.identity?_disconnect_eq now session other handle,
    fun later => directory.disconnect_disconnect now later session handle⟩
  · rw [notices, filterMap_cleanup?_farewells]
  · rw [told, Watched.count_tellEach List.nodup_range (List.mem_range.mpr listens),
      List.Nodup.count (distinct.filter stored)]
    simp only [List.mem_filter]

end Directory

end Gateway
