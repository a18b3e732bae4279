import ClockBoard.Listing.File
import ClockBoard.Upload.Policy
import ClockBoard.Upload.Writer

/-!
An upload writes the assignments of a listing one by one, and each again until it is acknowledged
or its attempts are used up. A register that fails does not stop the upload; the mode decides at
the end whether the list of failures is an error. That a register is applied means only that its
write was acknowledged: nothing is read back.
-/

namespace ClockBoard.Upload

/-- Try to write a register for a number of attempts more. What is left if all fail is the reason
of the last failure. -/
def attemptWrite (assignment : Assignment) (attempt : Nat) (reason? : Option String) :
    (left : Nat) → Routine interface (Option String)
  | 0 => return reason?
  | left + 1 => do
      match ← write assignment.address assignment.value with
      | .ok () => return none
      | .error reason =>
          note .warn "Register write failed"
            [ ("address", .number assignment.address.toNat),
              ("value", .number assignment.value.toNat),
              ("attempt", .number attempt),
              ("error", .text reason) ]
          attemptWrite assignment (attempt + 1) (some reason) left

def writeAssignment (policy : Policy) (assignment : Assignment) :
    Routine interface (Option Failure) := do
  let attempts := max policy.attempts 1
  let reason? ← attemptWrite assignment 1 none attempts
  return reason?.map fun reason =>
    { address := assignment.address, value := assignment.value, attempts, reason }

def writeAll (policy : Policy) (assignments : List Assignment) :
    Routine interface (List Failure) := do
  let failures ← assignments.mapM (writeAssignment policy)
  return failures.filterMap id

def conclude (mode : Mode) (failures : List Failure) : Except Error Outcome :=
  if failures.isEmpty then .ok .allApplied
  else
    match mode with
    | .strict => .error (.partiallyApplied failures)
    | .bestEffort => .ok (.partiallyApplied failures)

def finish (policy : Policy) (total : Nat) (failures : List Failure) :
    Routine interface (Except Error Outcome) := do
  note .info "Register upload complete"
    [ ("applied", .number (total - failures.length)), ("failed", .number failures.length) ]
  return conclude policy.mode failures

/-! ## Uploads -/

def uploadPlain (policy : Policy) (assignments : List Assignment) :
    Routine interface (Except Error Outcome) := do
  note .debug "Uploading registers" [("n", .number assignments.length)]
  let failures ← writeAll policy assignments
  finish policy assignments.length failures

def uploadSectioned (policy : Policy) (listing : Listing.Sectioned) :
    Routine interface (Except Error Outcome) := do
  note .debug "Uploading sectioned registers"
    [ ("preamble", .number listing.preamble.length),
      ("registers", .number listing.registers.length),
      ("postamble", .number listing.postamble.length) ]
  let preamble ← writeAll policy listing.preamble
  settle policy.settle
  let registers ← writeAll policy listing.registers
  let postamble ← writeAll policy listing.postamble
  finish policy listing.length (preamble ++ registers ++ postamble)

inductive Dialect
  | plain
  | sectioned
deriving DecidableEq

/-- Upload the listing that a text holds. Nothing is written if the text is not well formed. -/
def uploadText (policy : Policy) (dialect : Dialect) (text : String) :
    Routine interface (Except Error Outcome) :=
  match dialect with
  | .plain =>
      match Listing.parsePlain text with
      | .ok assignments => uploadPlain policy assignments
      | .error error => return .error (.parse error)
  | .sectioned =>
      match Listing.parseSectioned text with
      | .ok listing => uploadSectioned policy listing
      | .error error => return .error (.parse error)

def uploadFile (policy : Policy) (dialect : Dialect) (file : Listing.File) :
    Routine interface (Except Error Outcome) :=
  match file.text with
  | .ok text => uploadText policy dialect text
  | .error error => return .error (.parse error)

end ClockBoard.Upload
