import Gateway.Key
import Gateway.Registry
import Gateway.Text.Utf8

/-! # Pads by pairing key

The store holds for each pairing key the pad that is applied to the clear channel, and a pad that
waits to be acknowledged. A waiting pad expires.
-/

namespace Gateway

structure PadStore where
  active : Registry Key Bytes
  pending : Registry Key Bytes

namespace PadStore

/-- A store without pads, whose pending pads expire. -/
def empty (pendingTtl : Nat) : PadStore := ⟨.empty none, .empty (some pendingTtl)⟩

def activePad (store : PadStore) (now : Nat) (key : Key) : Option Bytes × PadStore :=
  let found := store.active.get now key
  (found.result, { store with active := found.registry })

def pendingPad (store : PadStore) (now : Nat) (key : Key) : Option Bytes × PadStore :=
  let found := store.pending.get now key
  (found.result, { store with pending := found.registry })

def stage (store : PadStore) (now : Nat) (key : Key) (pad : Bytes) : PadStore :=
  { store with pending := (store.pending.put now key pad).registry }

/-- The store with a pad in use for a key and none waiting. -/
def install (store : PadStore) (now : Nat) (key : Key) (pad : Bytes) : PadStore :=
  { active := (store.active.put now key pad).registry
    pending := (store.pending.remove now key).registry }

/-- Puts the waiting pad of a key to use. The result is whether there was one. -/
def activate (store : PadStore) (now : Nat) (key : Key) : Bool × PadStore :=
  let taken := store.pending.remove now key
  let store := { store with pending := taken.registry }
  match taken.result with
  | some pad => (true, store.install now key pad)
  | none => (false, store)

def revoke (store : PadStore) (now : Nat) (key : Key) : PadStore :=
  { active := (store.active.remove now key).registry
    pending := (store.pending.remove now key).registry }

/-- The store without the waiting pads that have expired. -/
def sweep (store : PadStore) (now : Nat) : PadStore :=
  { store with pending := (store.pending.sweep now).registry }

end PadStore

end Gateway
