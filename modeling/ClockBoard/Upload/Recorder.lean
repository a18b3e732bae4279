import ClockBoard.Table
import ClockBoard.Upload.Writer

/-!
A recorder is a writer without a chip. It keeps a record of what it is asked for, and fails the
first writes to chosen registers.
-/

namespace ClockBoard.Upload

inductive Record
  | written (address : UInt16) (value : UInt8)
  | refused (address : UInt16) (value : UInt8)
  | settled (milliseconds : Nat)
deriving DecidableEq

structure Recorder where
  /-- The number of writes to a register that will fail. -/
  refusals : Table UInt16 Nat
  /-- The number of writes asked for so far. -/
  attempts : Nat
  records : Array Record
  events : Array Event

namespace Recorder

def ofRefusals (refusals : List (UInt16 × Nat)) : Recorder where
  refusals := .ofList refusals
  attempts := 0
  records := #[]
  events := #[]

def write (recorder : Recorder) (address : UInt16) (value : UInt8) :
    Except String Unit × Recorder :=
  let attempts := recorder.attempts + 1
  match recorder.refusals.get? address with
  | some (left + 1) =>
      (.error ("injected failure #" ++ toString attempts),
        { recorder with
          attempts
          refusals := recorder.refusals.insert address left
          records := recorder.records.push (.refused address value) })
  | _ =>
      (.ok (),
        { recorder with attempts, records := recorder.records.push (.written address value) })

def serve : (request : Request) → Recorder → interface.Answer request × Recorder
  | .write address value, recorder => recorder.write address value
  | .settle milliseconds, recorder =>
      ((), { recorder with records := recorder.records.push (.settled milliseconds) })
  | .note event, recorder => ((), { recorder with events := recorder.events.push event })

def run {α : Type} (routine : Routine interface α) (recorder : Recorder) : α × Recorder :=
  routine.run serve recorder

end Recorder

end ClockBoard.Upload
