import ClockBoard.Bus.Transaction

/-!
A bus is shared by everyone who talks to one of its slaves. A handle stands for one slave; it takes
hold of the bus for one piece of work at a time, and others may have the bus between two pieces.
So the pieces are the units in which the work of several handles is interleaved.

Someone who fails while holding the bus poisons it, and from then on nobody can take hold of it.
-/

namespace ClockBoard

/-- What a user of a shared bus may ask for: to hold the bus for one piece of work, or to take note
of an event. -/
inductive Handle.Request : Type 1
  | hold {α : Type} (work : Bus → Bus.Action α)
  | note (event : Event)

@[reducible] def Handle.interface : Interface.{1} where
  Request := Handle.Request
  Answer
    | @Handle.Request.hold α _ => Except Bus.Error α
    | .note _ => Unit

structure Handle where
  address : UInt8
  inRange : address ≤ Bus.lastAddress := by decide

namespace Handle

abbrev Action (α : Type) : Type 1 :=
  ExceptT Bus.Error (Routine Handle.interface) α

def note (event : Event) : Routine Handle.interface Unit :=
  .ask (Handle.Request.note event) .done

def hold {α : Type} (work : Bus → Bus.Action α) : Action α :=
  ExceptT.mk (.ask (Handle.Request.hold work) .done)

def carry (bus : Bus) (poisoned : Bool) :
    (request : Handle.Request) → Routine Link.interface (Handle.interface.Answer request)
  | .hold work => if poisoned then .done (.error (.link .poisoned)) else work bus
  | .note event => Link.note event

/-! ## Handles -/

def ofAddress (address : UInt8) : Except Bus.Error Handle :=
  if inRange : address ≤ Bus.lastAddress then
    .ok { address, inRange }
  else
    .error (.addressOutOfRange address)

def ofName (name : String) : Action Handle := do
  let address ← hold fun bus => bus.slaveAddress name
  ofAddress address

def withBus {α : Type} (handle : Handle) (work : Bus → UInt8 → Bus.Action α) : Action α :=
  hold fun bus => work bus handle.address

def readRegisters (handle : Handle) (register : UInt8) (count : Nat) : Action (List UInt8) :=
  handle.withBus fun bus address => bus.readArray address register count

def writeRegisters (handle : Handle) (register : UInt8) (bytes : List UInt8) : Action Unit :=
  handle.withBus fun bus address => bus.writeArray address register bytes true

def readRegister (handle : Handle) (register : UInt8) : Action UInt8 := do
  let bytes ← handle.readRegisters register 1
  return bytes.headD 0

def writeRegister (handle : Handle) (register value : UInt8) : Action Unit :=
  handle.writeRegisters register [value]

def readRaw (handle : Handle) (count : Nat) : Action (List UInt8) :=
  handle.withBus fun bus address => bus.readBlock address count

def writeRaw (handle : Handle) (bytes : List UInt8) : Action Unit :=
  handle.withBus fun bus address => bus.writeBlock address bytes true

/-- Tell whether the slave answers. A slave on a poisoned bus does not. -/
def ping (handle : Handle) : Routine Handle.interface Bool := do
  let answer ← (handle.withBus fun bus address => (bus.ping address : Bus.Action Bool)).run
  return match answer with
    | .ok present => present
    | .error _ => false

/-! ## Layouts of one byte -/

def fitted {α : Type} (result : Except Layout.SizeMismatch α) : Except Bus.Error α :=
  result.mapError fun _ => .link .packing

def readLayout {α : Type} (handle : Handle) (placed : Layout.Placed α) : Action α := do
  let byte ← handle.readRegister placed.register
  fitted (placed.layout.unpack [byte])

def writeLayout {α : Type} (handle : Handle) (placed : Layout.Placed α) (record : α) :
    Action Unit := do
  let packed ← fitted (placed.layout.pack record 1)
  handle.writeRegister placed.register (packed.headD 0)

end Handle

end ClockBoard
