import Gateway.Table

/-! # Counters

Counters by name. A counter that was never recorded stands at zero. A recorder that fails is
ignored: counting never gets in the way of a message.
-/

namespace Gateway

structure Counters where
  table : Table String Nat
deriving Inhabited

namespace Counters

def zero : Counters := ⟨.empty⟩

def get (counters : Counters) (name : String) : Nat := (counters.table.get? name).getD 0

def record (counters : Counters) (name : String) : Counters :=
  ⟨counters.table.insert name (counters.get name + 1)⟩

@[simp] theorem get_record (counters : Counters) (name other : String) :
    (counters.record name).get other =
      if name = other then counters.get name + 1 else counters.get other := by
  by_cases same : name = other <;> simp [get, record, same]

end Counters

/-- Where a count goes. -/
inductive Recorder where
  /-- Into the counters. -/
  | memory
  /-- Nowhere. -/
  | discard
  /-- Nowhere, with a failure each time. -/
  | failing
deriving DecidableEq, Repr

/-- The counters after a count went to a recorder. -/
def Recorder.record (recorder : Recorder) (counters : Counters) (name : String) : Counters :=
  match recorder with
  | .memory => counters.record name
  | .discard => counters
  | .failing => counters

end Gateway
