import Gateway.Registry

/-! # Sweepers

A sweeper sweeps once when it is started and then each time another whole period since then has
passed. Periods that went by while nothing ran are made up for by one sweep. A swept registry is a
registry with its clock and its sweepers, which run at whole milliseconds.
-/

namespace Gateway

/-- A schedule of sweeps. -/
structure Sweeper where
  period : Nat
  /-- When the next sweep is due. -/
  next : Nat
deriving DecidableEq, Repr

namespace Sweeper

def start (now period : Nat) : Sweeper := ⟨period, now⟩

def isDue (sweeper : Sweeper) (now : Nat) : Bool := sweeper.next ≤ now

/-- The sweeper after a sweep: the next one is due at the first later end of a period. -/
def sweptAt (sweeper : Sweeper) (now : Nat) : Sweeper :=
  { sweeper with
    next := sweeper.next + ((now - sweeper.next) / sweeper.period + 1) * sweeper.period }

end Sweeper

/-- A registry with a clock, in nanoseconds, and sweepers. -/
structure SweptRegistry (K : Type u) (V : Type v) where
  registry : Registry K V
  now : Nat
  sweepers : List Sweeper

namespace SweptRegistry

variable {K : Type u} {V : Type v}

/-- Runs the sweepers that are due. The keys that left the registry come in the order of the sweeps.
-/
def runSweepers (swept : SweptRegistry K V) :
    List Sweeper → SweptRegistry K V × List Sweeper × List K
  | [] => (swept, [], [])
  | sweeper :: rest =>
    if sweeper.isDue swept.now then
      let step := swept.registry.sweep swept.now
      let (settled, others, removed) := { swept with registry := step.registry }.runSweepers rest
      (settled, sweeper.sweptAt swept.now :: others, step.removed ++ removed)
    else
      let (settled, others, removed) := swept.runSweepers rest
      (settled, sweeper :: others, removed)

/-- The registry after the sweepers that are due have run, and the keys that left it. -/
def settle (swept : SweptRegistry K V) : SweptRegistry K V × List K :=
  let (settled, sweepers, removed) := swept.runSweepers swept.sweepers
  ({ settled with sweepers := sweepers }, removed)

/-- The registry with one more sweeper, which sweeps at once. -/
def startSweeper (swept : SweptRegistry K V) (period : Nat) : SweptRegistry K V × List K :=
  { swept with sweepers := swept.sweepers ++ [Sweeper.start swept.now period] }.settle

def stopSweepers (swept : SweptRegistry K V) : SweptRegistry K V := { swept with sweepers := [] }

/-- The registry after some time has passed without sweeping. -/
def elapse (swept : SweptRegistry K V) (nanoseconds : Nat) : SweptRegistry K V :=
  { swept with now := swept.now + nanoseconds }

/-- The registry after milliseconds have passed one by one, with the sweepers running after each. -/
def elapseSwept : Nat → SweptRegistry K V → SweptRegistry K V × List K
  | 0, swept => (swept, [])
  | count + 1, swept =>
    let (settled, first) := (swept.elapse 1000000).settle
    let (settled, others) := elapseSwept count settled
    (settled, first ++ others)

/-- The registry after milliseconds and then nanoseconds have passed. -/
def advance (swept : SweptRegistry K V) (milliseconds nanoseconds : Nat) :
    SweptRegistry K V × List K :=
  if swept.sweepers.isEmpty then (swept.elapse (milliseconds * 1000000 + nanoseconds), [])
  else
    let (settled, removed) := elapseSwept milliseconds swept
    (settled.elapse nanoseconds, removed)

end SweptRegistry

end Gateway
