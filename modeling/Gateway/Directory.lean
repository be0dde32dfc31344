import Gateway.Identity
import Gateway.Registry

/-! # Directories of sessions

A directory holds the identity of each session and, under each identity and under every further key
that handlers asked for, the handle through which the session is reached. A directory may let
handles expire and may forget the identity of a session when the handle under that identity goes.
Connecting restores the identity of a session whose handle is still live and mints one otherwise;
disconnecting releases every key of the handle and the identity of the session.
-/

namespace Gateway

/-- The sessions of one kind: `S` names a session, `H` reaches it. -/
structure Directory (S : Type u) (H : Type v) where
  roster : Roster S
  handles : Registry Key H
  /-- Whether a session loses its identity when the handle under that identity goes. -/
  forgetful : Bool

/-- What a directory tells its listeners. -/
inductive DirectoryNotice where
  /-- A key is gone from the registry of handles. -/
  | removed (key : Key)
  /-- Whatever is held for a key is to be released. -/
  | cleanup (key : Key)
deriving DecidableEq, Repr

namespace Directory

variable {S : Type u} {H : Type v}

def empty (ttl : Option Nat) (forgetful : Bool) : Directory S H := ⟨.empty, .empty ttl, forgetful⟩

/-- The roster that remains when a key of the registry is gone. -/
def forgetKey (forgetful : Bool) (roster : Roster S) (key : Key) : Roster S :=
  match forgetful, key with
  | true, .system id => roster.forget id
  | _, _ => roster

/-- The directory after an operation on its registry: sessions whose handles left may lose their
identity. -/
def adopt (directory : Directory S H) (handles : Registry Key H) (removed : List Key) :
    Directory S H :=
  { directory with
    roster := removed.foldl (forgetKey directory.forgetful) directory.roster
    handles := handles }

def register (directory : Directory S H) (now : Nat) (key : Key) (handle : H) : Directory S H :=
  { directory with handles := (directory.handles.put now key handle).registry }

def registerAll (directory : Directory S H) (now : Nat) (keys : List Key) (handle : H) :
    Directory S H :=
  keys.foldl (fun directory key => directory.register now key handle) directory

/-- The handle under a key, whose expiry starts anew. -/
def find (directory : Directory S H) (now : Nat) (key : Key) :
    Option H × Directory S H × List Key :=
  let found := directory.handles.get now key
  (found.result, directory.adopt found.registry found.removed, found.removed)

/-- The directory without expired handles, and how many there were. -/
def sweep (directory : Directory S H) (now : Nat) : Nat × Directory S H × List Key :=
  let swept := directory.handles.sweep now
  (swept.result, directory.adopt swept.registry swept.removed, swept.removed)

variable [DecidableEq S]

/-- What connecting comes to. -/
structure Connected (S : Type u) (H : Type v) where
  id : Identity
  directory : Directory S H
  mint : Mint
  /-- The keys of handles that turned out to have expired. -/
  removed : List Key

/-- The directory with a newly minted identity, which reaches the handle. -/
def welcome (directory : Directory S H) (now : Nat) (handle : H) (removed : List Key)
    (grant : Roster.Grant S) : Connected S H :=
  { id := grant.id
    directory :=
      { directory with roster := grant.roster }.register now (.system grant.id) handle
    mint := grant.mint
    removed := removed }

/-- The identity of a session, restored while its handle is live and minted otherwise; it reaches
the given handle from now on. -/
def connect (directory : Directory S H) (mint : Mint) (now : Nat) (session : S) (handle : H) :
    Connected S H :=
  let grant := directory.roster.getOrMint session mint
  if grant.minted then directory.welcome now handle [] grant
  else
    let restarted := directory.handles.renew now (.system grant.id)
    let checked := directory.adopt restarted.registry restarted.removed
    if restarted.result then checked.welcome now handle [] grant
    else
      checked.welcome now handle restarted.removed
        (checked.roster.remint session grant.id mint)

def release (directory : Directory S H) (now : Nat) (key : Key) :
    Directory S H × List DirectoryNotice :=
  let taken := directory.handles.remove now key
  (directory.adopt taken.registry taken.removed, taken.removed.map .removed ++ [.cleanup key])

/-- The directory without each of some keys. -/
def releaseAll (directory : Directory S H) (now : Nat) :
    List Key → Directory S H × List DirectoryNotice
  | [] => (directory, [])
  | key :: rest =>
    let (directory, first) := directory.release now key
    let (directory, others) := directory.releaseAll now rest
    (directory, first ++ others)

/-- The keys that a session gives up when it disconnects: those of its handle, in order, and then
its identity, unless that is among them. -/
def keysOf [BEq H] (directory : Directory S H) (session : S) (handle : H) : List Key :=
  let keys := directory.handles.keysHolding Key.le handle
  match directory.roster.get? session with
  | some id => if .system id ∈ keys then keys else keys ++ [.system id]
  | none => keys

/-- The directory without a session and without every key of its handle. -/
def disconnect [BEq H] (directory : Directory S H) (now : Nat) (session : S) (handle : H) :
    Directory S H × List DirectoryNotice :=
  { directory with roster := directory.roster.remove session }.releaseAll now
    (directory.keysOf session handle)

end Directory

end Gateway
