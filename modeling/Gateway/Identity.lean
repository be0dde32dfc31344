import Gateway.Key
import Gateway.Table

/-! # Identities

A mint hands out identities one after the other, and a roster remembers which identity each session
has. The roster can replace an identity that has become stale, unless someone did so before, and can
drop every session of an identity.
-/

namespace Gateway

/-- Hands out identities. -/
structure Mint where
  next : UInt64
deriving DecidableEq, Repr

instance : Inhabited Mint := ⟨⟨1⟩⟩

namespace Mint

def initial : Mint := ⟨1⟩

/-- The next identity. Past the last word the count starts again at zero. -/
def issue (mint : Mint) : Identity × Mint := (⟨mint.next⟩, ⟨mint.next + 1⟩)

/-- The next `count` identities. -/
def issueMany : Nat → Mint → List Identity × Mint
  | 0, mint => ([], mint)
  | count + 1, mint =>
    let (id, mint) := mint.issue
    let (ids, mint) := issueMany count mint
    (id :: ids, mint)

end Mint

/-- The identity of each session, by session key. -/
structure Roster (S : Type u) where
  table : Table S Identity

namespace Roster

def empty : Roster S := ⟨.empty⟩

def size (roster : Roster S) : Nat := roster.table.size

def isEmpty (roster : Roster S) : Bool := roster.table.isEmpty

/-- The roster without the sessions of an identity. -/
def forget (roster : Roster S) (id : Identity) : Roster S :=
  ⟨roster.table.filter fun _ other => !decide (other = id)⟩

/-- How many sessions have an identity of the given value. -/
def countOf (roster : Roster S) (id : Identity) : Nat :=
  (roster.table.filter fun _ other => decide (other = id)).size

variable [DecidableEq S]

def get? (roster : Roster S) (session : S) : Option Identity := roster.table.get? session

def insert (roster : Roster S) (session : S) (id : Identity) : Roster S :=
  ⟨roster.table.insert session id⟩

def remove (roster : Roster S) (session : S) : Roster S := ⟨roster.table.erase session⟩

/-- What giving a session an identity comes to. -/
structure Grant (S : Type u) where
  id : Identity
  /-- Whether the identity was minted for this. -/
  minted : Bool
  roster : Roster S
  mint : Mint

def grantFresh (roster : Roster S) (session : S) (mint : Mint) : Grant S :=
  let (id, mint) := mint.issue
  ⟨id, true, roster.insert session id, mint⟩

/-- The identity of a session, minted if it has none. -/
def getOrMint (roster : Roster S) (session : S) (mint : Mint) : Grant S :=
  match roster.get? session with
  | some id => ⟨id, false, roster, mint⟩
  | none => roster.grantFresh session mint

/-- A newly minted identity in place of a stale one or of none; any other identity stays. -/
def remint (roster : Roster S) (session : S) (stale : Identity) (mint : Mint) : Grant S :=
  match roster.get? session with
  | some id =>
    if id ≠ stale then ⟨id, false, roster, mint⟩
    else roster.grantFresh session mint
  | none => roster.grantFresh session mint

end Roster

end Gateway
