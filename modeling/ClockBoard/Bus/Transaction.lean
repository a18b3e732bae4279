import ClockBoard.Bus.Command
import ClockBoard.Bus.Reset

/-!
Transactions move blocks of bytes between the software and one slave. A transaction that fails
leaves the wires as they are; the reset at the start of the next one puts them in order.
-/

namespace ClockBoard.Bus

open ClockBoard.Core ClockBoard.Link

def addressByte (address : UInt8) (reading : Bool) : UInt8 :=
  (address <<< 1) ||| if reading then 1 else 0

def sendBytes (bus : Bus) (stop : Bool) : List UInt8 → Action Unit
  | [] => pure ()
  | byte :: rest => do
      bus.sendByte { stop := stop && rest.isEmpty } byte
      bus.sendBytes stop rest

/-- Write a block of bytes. If the bus is to be stopped, the last byte does it. -/
def writeBlock (bus : Bus) (address : UInt8) (bytes : List UInt8) (stop : Bool) : Action Unit := do
  checkAddress address
  let _ ← bus.reset
  bus.remark .debug "I2C write"
    [ ("address", .number address.toNat),
      ("n", .number bytes.length),
      ("send_stop", .flag stop) ]
  bus.sendByte { start := true, stop := stop && bytes.isEmpty } (addressByte address false)
  bus.sendBytes stop bytes

/-- Receive the bytes of a block one by one, onto those received before, latest first. -/
def receiveBytes (bus : Bus) (received : List UInt8) :
    (left : Nat) → Action (List UInt8)
  | 0 => return received.reverse
  | left + 1 => do
      let last := left == 0
      let byte ← bus.receiveByte { stop := last, ack := last }
      bus.receiveBytes (byte :: received) left

/-- Read a block of bytes, the last of which is left unacknowledged and stops the bus. -/
def readBlock (bus : Bus) (address : UInt8) (count : Nat) : Action (List UInt8) := do
  checkAddress address
  let _ ← bus.reset
  bus.remark .debug "I2C read" [("address", .number address.toNat), ("n", .number count)]
  bus.sendByte { start := true, stop := count == 0 } (addressByte address true)
  bus.receiveBytes [] count

def readArray (bus : Bus) (address register : UInt8) (count : Nat) : Action (List UInt8) := do
  bus.writeBlock address [register] false
  bus.readBlock address count

def writeArray (bus : Bus) (address register : UInt8) (bytes : List UInt8) (stop : Bool) :
    Action Unit :=
  bus.writeBlock address (register :: bytes) stop

/-! ## Finding slaves -/

def tryAddress (bus : Bus) (address : UInt8) : Action Unit := do
  checkAddress address
  let _ ← bus.reset
  bus.sendByte { start := true, stop := true } (addressByte address false)

/-- Tell whether a slave answers to an address. Whatever goes wrong, the slave counts as absent. -/
def ping (bus : Bus) (address : UInt8) : Routine Link.interface Bool := do
  match ← (bus.tryAddress address).run with
  | .ok () => return true
  | .error error =>
      bus.remark .trace "I2C ping failed"
        [("address", .number address.toNat), ("error", .text error.message)]
      return false

def scanned : List UInt8 :=
  (List.range 0x7F).map UInt8.ofNat

def pingAll (bus : Bus) : List UInt8 → Routine Link.interface (List UInt8)
  | [] => return []
  | address :: rest => do
      let present ← bus.ping address
      let found ← bus.pingAll rest
      return if present then address :: found else found

private def listText (addresses : List UInt8) : String :=
  "[" ++ ", ".intercalate (addresses.map fun address => toString address.toNat) ++ "]"

def scan (bus : Bus) : Routine Link.interface (List UInt8) := do
  let found ← bus.pingAll scanned
  bus.remark .debug "I2C scan" [("found", .text (listText found))]
  return found

end ClockBoard.Bus
