import ClockBoard.Link.Transport

/-!
A tap sits on the wire to a transport. It keeps a record of the batches that pass, and spoils those
that a schedule names.
-/

namespace ClockBoard.Link

/-- How a batch is spoiled. A batch that fails is not carried out; the others are, and only their
responses are of no use. -/
inductive Fault
  | fails (error : Error)
  | emptyResponse
  | strangeResponse
deriving DecidableEq

/-- The fault that strikes each batch, if one does. Batches count from zero. -/
abbrev Schedule : Type :=
  Nat → Option Fault

namespace Schedule

def clear : Schedule :=
  fun _ => none

def once (after : Nat) (fault : Fault) : Schedule :=
  fun passed => if passed = after then some fault else none

end Schedule

structure Passage where
  operations : List Operation
  failed : Bool
deriving DecidableEq

structure Tap (σ : Type) where
  device : σ
  schedule : Schedule
  /-- The number of batches that have passed since the schedule was set. -/
  passed : Nat
  passages : Array Passage

namespace Tap

variable {σ : Type}

def on (device : σ) : Tap σ where
  device
  schedule := .clear
  passed := 0
  passages := #[]

/-- Set a schedule, which starts with the next batch. The one set before is forgotten. -/
def spoil (tap : Tap σ) (schedule : Schedule) : Tap σ :=
  { tap with schedule, passed := 0 }

def distort : Option Fault → Response → Response
  | some .emptyResponse, response => { response with values := [] }
  | some .strangeResponse, response => { response with batch := none }
  | _, response => response

def failedWith : Except Error Response → Bool
  | .ok _ => false
  | .error _ => true

def carry [Transport σ] (batch : Batch) : Tap σ → Except Error Response × Tap σ
  | ⟨device, schedule, passed, passages⟩ =>
      match schedule passed with
      | some (.fails error) =>
          (.error error, ⟨device, schedule, passed + 1, passages.push ⟨batch.operations, true⟩⟩)
      | struck =>
          let carried := dispatch batch device
          let passage := ⟨batch.operations, failedWith carried.1⟩
          (carried.1.map (distort struck),
            ⟨carried.2, schedule, passed + 1, passages.push passage⟩)

instance [Transport σ] : Transport (Tap σ) := ⟨carry⟩

end Tap

end ClockBoard.Link
