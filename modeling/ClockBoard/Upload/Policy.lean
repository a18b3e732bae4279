import ClockBoard.Listing.Error

/-!
How an upload deals with registers that cannot be written, and what it reports about them.
-/

namespace ClockBoard.Upload

def defaultAttempts : Nat :=
  2

/-- The milliseconds that a chip needs to settle after the preamble. -/
def preambleSettle : Nat :=
  300

/-- Whether registers that could not be written make an upload fail. -/
inductive Mode
  | strict
  | bestEffort
deriving DecidableEq

structure Policy where
  /-- Attempts at each register, of which one is made in any case. -/
  attempts : Nat := defaultAttempts
  mode : Mode := .strict
  /-- The pause after the preamble, in milliseconds. -/
  settle : Nat := preambleSettle
  /-- Whether to show the progress to someone. -/
  progress : Bool := false
deriving DecidableEq

def Policy.bestEffort : Policy where
  mode := .bestEffort

structure Failure where
  address : UInt16
  value : UInt8
  attempts : Nat
  reason : String
deriving DecidableEq

inductive Outcome
  | allApplied
  | partiallyApplied (failures : List Failure)
deriving DecidableEq

def Outcome.isComplete : Outcome → Bool
  | .allApplied => true
  | .partiallyApplied _ => false

def Outcome.failedAddresses : Outcome → List UInt16
  | .allApplied => []
  | .partiallyApplied failures => failures.map Failure.address

inductive Error
  | parse (error : Listing.Error)
  | partiallyApplied (failures : List Failure)
deriving DecidableEq

def Error.message : Error → String
  | .parse error => error.message
  | .partiallyApplied failures => toString failures.length ++ " register(s) could not be written"

end ClockBoard.Upload
