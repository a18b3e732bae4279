import ClockBoard.Core.Register
import ClockBoard.Core.Word
import ClockBoard.Link.Transport
import ClockBoard.Simulation.Slave
import ClockBoard.Table

/-!
A simulated circuit is an I2C core with slaves attached to its wires. Commands complete at once,
unless the circuit is told to stall, to lose arbitration, or to refuse register writes.
-/

namespace ClockBoard.Simulation

open ClockBoard.Core ClockBoard.Link

/-- What an address byte has opened: a slave to read from, or one to write to, which takes the
first byte as its pointer. -/
structure Transfer where
  address : UInt8
  reading : Bool
  pointed : Bool
deriving DecidableEq

structure Circuit where
  node : String
  prescaleHigh : UInt8
  prescaleLow : UInt8
  control : Control
  tx : UInt8
  rx : UInt8
  status : Status
  /-- Whether the bus was started and not yet stopped. -/
  held : Bool
  transfer : Option Transfer
  slaves : Table UInt8 Slave
  /-- The number of status reads that will still show a transfer in progress. -/
  stalls : Nat
  /-- The number of commands that will lose arbitration. -/
  losses : Nat
  /-- All commands that asked for something, in order. -/
  commands : Array Command

namespace Circuit

def ofNode (node : String) : Circuit where
  node
  prescaleHigh := 0
  prescaleLow := 0
  control := {}
  tx := 0
  rx := 0
  status := {}
  held := false
  transfer := none
  slaves := .empty
  stalls := 0
  losses := 0
  commands := #[]

/-! ## Set up -/

/-- Attach a slave, in place of the one that has the address already. -/
def attach (circuit : Circuit) (address : UInt8) (slave : Slave) : Circuit :=
  { circuit with slaves := circuit.slaves.insert address slave }

def refuseWrites (circuit : Circuit) (address : UInt8) (count : Nat) : Bool × Circuit :=
  let told := circuit.slaves.visit address fun slave => ((), slave.refuseWrites count)
  (told.1.isSome, { circuit with slaves := told.2 })

def stall (circuit : Circuit) (polls : Nat) : Circuit :=
  { circuit with stalls := polls }

def loseArbitration (circuit : Circuit) (commands : Nat) : Circuit :=
  { circuit with losses := commands }

def slave? (circuit : Circuit) (address : UInt8) : Option Slave :=
  circuit.slaves.get? address

def prescale (circuit : Circuit) : UInt16 :=
  joinBytes circuit.prescaleHigh circuit.prescaleLow

def enabled (circuit : Circuit) : Bool :=
  circuit.control.enable

/-! ## Commands -/

def select (circuit : Circuit) : Circuit :=
  let address := circuit.tx >>> 1
  let present := circuit.slaves.contains address
  { circuit with
    held := true
    transfer := if present then some ⟨address, circuit.tx &&& 1 == 1, false⟩ else none
    status.rxNack := !present }

def send (circuit : Circuit) : Circuit :=
  match circuit.transfer with
  | some ⟨address, false, pointed⟩ =>
      let byte := circuit.tx
      let sent := circuit.slaves.visit address fun slave =>
        if pointed then slave.store byte else (true, slave.pointTo byte)
      { circuit with
        slaves := sent.2
        transfer := some ⟨address, false, pointed || sent.1.isSome⟩
        status.rxNack := !sent.1.getD false }
  | _ => { circuit with status.rxNack := true }

/-- Take a byte off the wires, which are high if no slave drives them. What is acknowledged, or
not, is the byte that was read. -/
def receive (refused : Bool) (circuit : Circuit) : Circuit :=
  match circuit.transfer with
  | some ⟨address, true, _⟩ =>
      let loaded := circuit.slaves.visit address Slave.load
      { circuit with
        slaves := loaded.2
        rx := loaded.1.getD 0xFF
        status.rxNack := refused }
  | _ => { circuit with rx := 0xFF, status.rxNack := refused }

def move (command : Command) (circuit : Circuit) : Circuit :=
  if command.write then
    if command.start then circuit.select else circuit.send
  else if command.read then
    circuit.receive command.ack
  else
    circuit

def conclude (command : Command) (circuit : Circuit) : Circuit :=
  if command.stop then
    { circuit with held := false, transfer := none, status.busy := false }
  else
    { circuit with status.busy := circuit.held }

def lose (circuit : Circuit) : Circuit :=
  { circuit with
    losses := circuit.losses - 1
    held := false
    transfer := none
    status.arbitrationLost := true
    status.busy := false }

/-- Execute a command. A core that is not enabled leaves the wires alone, and nothing acknowledges
the byte. -/
def execute (command : Command) (circuit : Circuit) : Circuit :=
  if command = {} then
    circuit
  else
    let circuit := { circuit with commands := circuit.commands.push command }
    if !circuit.control.enable then
      { circuit with status.rxNack := true }
    else if circuit.losses > 0 then
      circuit.lose
    else
      let circuit := { circuit with status.arbitrationLost := false }
      (circuit.move command).conclude command

/-! ## Registers -/

/-- Give the status, which shows a transfer in progress while the circuit stalls. -/
def readStatus (circuit : Circuit) : UInt32 × Circuit :=
  if circuit.stalls > 0 then
    let shown := { circuit.status with transferInProgress := true }
    (Status.layout.toWord shown, { circuit with stalls := circuit.stalls - 1 })
  else
    (Status.layout.toWord circuit.status, circuit)

def write (circuit : Circuit) (value : UInt32) : Register → Circuit
  | .prescaleLow => { circuit with prescaleLow := value.toUInt8 }
  | .prescaleHigh => { circuit with prescaleHigh := value.toUInt8 }
  | .control => { circuit with control := Control.layout.ofWord value }
  | .data => { circuit with tx := value.toUInt8 }
  | .command => circuit.execute (Command.layout.ofWord value)

def read (circuit : Circuit) : Register → UInt32 × Circuit
  | .prescaleLow => (circuit.prescaleLow.toUInt32, circuit)
  | .prescaleHigh => (circuit.prescaleHigh.toUInt32, circuit)
  | .control => (Control.layout.toWord circuit.control, circuit)
  | .data => (circuit.rx.toUInt32, circuit)
  | .command => circuit.readStatus

/-- Carry out accesses in order and collect the values of the reads. Registers of other parts of
the board are passed over. -/
def perform : List Operation → Circuit → List UInt32 × Circuit
  | [], circuit => ([], circuit)
  | operation :: rest, circuit =>
      match Register.ofPath? circuit.node operation.register, operation with
      | none, _ => perform rest circuit
      | some register, .write _ value => perform rest (circuit.write value register)
      | some register, .read _ =>
          let served := circuit.read register
          let performed := perform rest served.2
          (served.1 :: performed.1, performed.2)

/-- Carry a batch. One that names a register the core does not have changes nothing. -/
def carry (batch : Batch) (circuit : Circuit) : Except Error Response × Circuit :=
  match batch.firstUnknown? fun register => (Register.ofPath? circuit.node register).isSome with
  | some register => (.error (.missingRegister register), circuit)
  | none =>
      let performed := perform batch.operations circuit
      (.ok (batch.respond performed.1), performed.2)

instance : Transport Circuit := ⟨carry⟩

end Circuit

end ClockBoard.Simulation
