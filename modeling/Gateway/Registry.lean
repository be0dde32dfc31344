import Gateway.Table

/-! # Keyed registries

A registry maps ordered keys to values and may let an entry expire once it has gone untouched for
longer than a time to live. Nothing happens at the moment of expiry: the entry stays stored until an
operation looks at its key, or a sweep at all keys, and evicts it. Every operation takes the time
and returns a `Step`: its result, the registry afterwards, and the keys whose entries left the
registry, in the order in which whoever listens is told. Replacing a value tells nobody.
-/

namespace Gateway

/-- A stored value and when it was last touched. -/
structure Entry (V : Type u) where
  value : V
  touched : Nat
deriving Inhabited, Repr

/-- Whether an entry has gone untouched for longer than the time to live. -/
def Entry.isExpired (entry : Entry V) (ttl now : Nat) : Bool := ttl < now - entry.touched

/-- A registry of values under keys. -/
structure Registry (K : Type u) (V : Type v) where
  /-- How long an entry lives untouched; without it, for ever. -/
  ttl : Option Nat
  entries : Table K (Entry V)

/-- What an operation on a registry comes to. -/
structure Registry.Step (K : Type u) (V : Type v) (R : Type w) where
  result : R
  registry : Registry K V
  /-- The keys whose entries left the registry, in order. -/
  removed : List K

/-- How a missing value is made: at once, or after reading a key of the registry. -/
inductive Factory (K : Type u) (V : Type v) where
  | give (value : V)
  | read (key : K) (next : Option V → Factory K V)

namespace Registry

variable {K : Type u} {V : Type v}

def empty (ttl : Option Nat) : Registry K V := ⟨ttl, .empty⟩

/-- The number of entries, expired or not. -/
def size (registry : Registry K V) : Nat := registry.entries.size

/-- Whether no entry is stored, expired or not. -/
def isEmpty (registry : Registry K V) : Bool := registry.entries.isEmpty

/-- The keys, in order, of the entries whose value the predicate accepts, expired or not. -/
def keysMatching (registry : Registry K V) (le : K → K → Bool) (accepts : V → Bool) : List K :=
  ((registry.entries.filter fun _ entry => accepts entry.value).keys).mergeSort le

/-- All keys in order, expired or not. -/
def keys (registry : Registry K V) (le : K → K → Bool) : List K :=
  registry.keysMatching le fun _ => true

def keysHolding [BEq V] (registry : Registry K V) (le : K → K → Bool) (value : V) : List K :=
  registry.keysMatching le fun stored => stored == value

/-- The first key in order whose value the predicate accepts. -/
def firstKey? (registry : Registry K V) (le : K → K → Bool) (accepts : V → Bool) : Option K :=
  (registry.keysMatching le accepts).head?

/-- Whether an entry is expired under the registry's time to live. -/
def isStale (registry : Registry K V) (now : Nat) (entry : Entry V) : Bool :=
  match registry.ttl with
  | none => false
  | some ttl => entry.isExpired ttl now

/-- The registry without its expired entries, and their number. -/
def sweep (registry : Registry K V) (now : Nat) : Step K V Nat :=
  let expired := (registry.entries.filter fun _ entry => registry.isStale now entry).keys
  { result := expired.length
    registry :=
      { registry with
        entries := registry.entries.filter fun _ entry => !registry.isStale now entry }
    removed := expired }

variable [DecidableEq K]

def drop (registry : Registry K V) (key : K) : Registry K V :=
  { registry with entries := registry.entries.erase key }

def store (registry : Registry K V) (now : Nat) (key : K) (value : V) : Registry K V :=
  { registry with entries := registry.entries.insert key ⟨value, now⟩ }

def touch (registry : Registry K V) (now : Nat) (key : K) : Registry K V :=
  { registry with
    entries := registry.entries.modify key fun entry => { entry with touched := now } }

/-- The value stored under a key, expired or not. -/
def stored? (registry : Registry K V) (key : K) : Option V :=
  (registry.entries.get? key).map Entry.value

/-- The registry without the entry of a key if that has expired, and whether it had. -/
def evict (registry : Registry K V) (now : Nat) (key : K) : Step K V Bool :=
  match registry.entries.get? key with
  | some entry =>
    if registry.isStale now entry then ⟨true, registry.drop key, [key]⟩ else ⟨false, registry, []⟩
  | none => ⟨false, registry, []⟩

/-- Stores a value. The result is the value it replaces, even one that had expired. -/
def put (registry : Registry K V) (now : Nat) (key : K) (value : V) : Step K V (Option V) :=
  ⟨registry.stored? key, registry.store now key value, []⟩

/-- The value of a key, touched. -/
def get (registry : Registry K V) (now : Nat) (key : K) : Step K V (Option V) :=
  let checked := registry.evict now key
  match checked.registry.stored? key with
  | some value => ⟨some value, checked.registry.touch now key, checked.removed⟩
  | none => ⟨none, checked.registry, checked.removed⟩

/-- What a factory makes, reading the registry. -/
def make (now : Nat) : Factory K V → Registry K V → Step K V V
  | .give value, registry => ⟨value, registry, []⟩
  | .read key next, registry =>
    let found := registry.get now key
    let made := make now (next found.result) found.registry
    ⟨made.result, made.registry, found.removed ++ made.removed⟩

/-- The value of a key, touched, and whether the factory had to make it. -/
def getOrMake (registry : Registry K V) (now : Nat) (key : K) (factory : Factory K V) :
    Step K V (V × Bool) :=
  let found := registry.get now key
  match found.result with
  | some value => ⟨(value, false), found.registry, found.removed⟩
  | none =>
    let made := make now factory found.registry
    let removed := found.removed ++ made.removed
    match made.registry.stored? key with
    | some value => ⟨(value, true), made.registry.touch now key, removed⟩
    | none => ⟨(made.result, true), made.registry.store now key made.result, removed⟩

/-- Changes the value of a key, starting from `initial` when there is none, and touches it. -/
def amend (registry : Registry K V) (now : Nat) (key : K) (initial : V)
    (change : V → R × V) : Step K V R :=
  let checked := registry.evict now key
  let (result, value) := change ((checked.registry.stored? key).getD initial)
  ⟨result, checked.registry.store now key value, checked.removed⟩

/-- Takes a key out. The result is its value, unless that had expired. -/
def remove (registry : Registry K V) (now : Nat) (key : K) : Step K V (Option V) :=
  let checked := registry.evict now key
  if checked.result then ⟨none, checked.registry, checked.removed⟩
  else
    match checked.registry.stored? key with
    | some value => ⟨some value, checked.registry.drop key, [key]⟩
    | none => ⟨none, checked.registry, []⟩

/-- Takes a key out if the predicate accepts its value. Expiry is not looked at. -/
def removeWhen (registry : Registry K V) (key : K) (accepts : V → Bool) : Step K V (Option V) :=
  match registry.stored? key with
  | some value =>
    if accepts value then ⟨some value, registry.drop key, [key]⟩ else ⟨none, registry, []⟩
  | none => ⟨none, registry, []⟩

/-- Whether a key has an entry that has not expired. -/
def contains (registry : Registry K V) (now : Nat) (key : K) : Step K V Bool :=
  let checked := registry.evict now key
  ⟨(checked.registry.stored? key).isSome, checked.registry, checked.removed⟩

/-- Touches a key. The result is whether it has an entry that has not expired. -/
def renew (registry : Registry K V) (now : Nat) (key : K) : Step K V Bool :=
  let checked := registry.evict now key
  if checked.result then ⟨false, checked.registry, checked.removed⟩
  else
    match checked.registry.stored? key with
    | some _ => ⟨true, checked.registry.touch now key, []⟩
    | none => ⟨false, checked.registry, []⟩

end Registry

/-- What each listener is told, in order: key by key, and each key to every listener. -/
def tellEach (listeners : List L) (keys : List K) : List (L × K) :=
  keys.flatMap fun key => listeners.map fun listener => (listener, key)

end Gateway
