import Gateway.Channel.Connection

/-! # Channel pairs

Under one key belong two connections: a clear one for traffic, and an encrypted one over which pads
for that traffic are delivered. A pair holds the identifiers of its occupants; whether they are
active is asked of whoever knows the connections.
-/

namespace Gateway

inductive Side where
  | clear
  | encrypted
deriving DecidableEq, Repr

def Side.text : Side → String
  | .clear => "clear"
  | .encrypted => "encrypted"

/-- The occupants of the two sides. -/
structure Pair where
  clear : Option ConnectionId
  encrypted : Option ConnectionId
deriving DecidableEq, Repr, Inhabited

namespace Pair

def empty : Pair := ⟨none, none⟩

def occupant (pair : Pair) : Side → Option ConnectionId
  | .clear => pair.clear
  | .encrypted => pair.encrypted

def occupy (pair : Pair) (side : Side) (id : ConnectionId) : Pair :=
  match side with
  | .clear => { pair with clear := some id }
  | .encrypted => { pair with encrypted := some id }

def holds (pair : Pair) (id : ConnectionId) : Bool :=
  decide (pair.clear = some id) || decide (pair.encrypted = some id)

def isSideActive (isActive : ConnectionId → Bool) (pair : Pair) (side : Side) : Bool :=
  (pair.occupant side).any isActive

def isAlive (isActive : ConnectionId → Bool) (pair : Pair) : Bool :=
  pair.isSideActive isActive .clear || pair.isSideActive isActive .encrypted

def isComplete (isActive : ConnectionId → Bool) (pair : Pair) : Bool :=
  pair.isSideActive isActive .clear && pair.isSideActive isActive .encrypted

end Pair

end Gateway
