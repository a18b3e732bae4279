import ClockBoard.Bus.Basic
import ClockBoard.Core.Word

/-!
One byte on the wires is one command to the core, followed by status reads until the core has
finished it. No command is issued before the one before it has come to its end.
-/

namespace ClockBoard.Bus

open ClockBoard.Core ClockBoard.Link

def outcome (needAck needIdle : Bool) (status : Status) : Except Error Unit :=
  if needAck && !status.ackReceived then .error .noAcknowledge
  else if needIdle && status.busy then .error .stillBusy
  else .ok ()

/-- Read the status until it shows the end of the transfer, for a number of attempts more. Lost
arbitration ends the wait at once, whatever else the status shows. -/
def poll (bus : Bus) (needAck needIdle : Bool) (attempt : Nat) : (left : Nat) → Action Unit
  | 0 => throw (.timeout bus.config.pollAttempts)
  | left + 1 => do
      let status := Status.layout.ofWord (← bus.readRegister .command)
      bus.remark .trace "I2C status poll"
        [("attempt", .number attempt), ("status", .text status.text)]
      if status.arbitrationLost then
        throw .arbitrationLost
      else if status.transferInProgress then
        bus.poll needAck needIdle (attempt + 1) left
      else
        outcome needAck needIdle status

def waitUntilFinished (bus : Bus) (needAck needIdle : Bool) : Action Unit :=
  bus.poll needAck needIdle 1 bus.config.pollAttempts

def wordOf (command : Command) : Except Error UInt32 :=
  match command.word? with
  | some word => .ok word
  | none => .error .conflictingDirection

/-- Write a byte, which the slave has to acknowledge. A command that stops the bus has to leave it
idle. -/
def sendByte (bus : Bus) (command : Command) (byte : UInt8) : Action Unit := do
  let word ← wordOf { command with write := true }
  let _ ← exchange [.write (bus.path .data) byte.toUInt32, .write (bus.path .command) word]
  bus.waitUntilFinished true command.stop

/-- Read a byte. The last byte of a read is left unacknowledged, so nothing is asked of the
acknowledgement. -/
def receiveByte (bus : Bus) (command : Command) : Action UInt8 := do
  let word ← wordOf { command with read := true }
  bus.writeRegister .command word
  bus.waitUntilFinished false false
  return (← bus.readRegister .data).toUInt8

end ClockBoard.Bus
