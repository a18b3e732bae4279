import ClockBoard.Bus.Address
import ClockBoard.Bus.Config
import ClockBoard.Core.Register
import ClockBoard.Link.Board
import ClockBoard.Table

/-!
A bus drives one I2C core of a board. It knows the node of the core, how to time it, and the names
of the slaves on its wires; all it does goes through exchanges with the board.
-/

namespace ClockBoard

structure Bus where
  node : String
  config : Bus.Config
  slaves : Table String UInt8

namespace Bus

open ClockBoard.Link

abbrev Action (α : Type) : Type :=
  ExceptT Error (Routine Link.interface) α

def prescale (bus : Bus) : UInt16 :=
  bus.config.prescale

def path (bus : Bus) (register : Core.Register) : String :=
  register.path bus.node

def remark (bus : Bus) (level : Event.Level) (message : String)
    (fields : List (String × Event.Value)) : Routine Link.interface Unit :=
  Link.note { level, message, fields := ("node", .text bus.node) :: fields }

/-! ## Access to the core -/

def exchange (operations : List Operation) : Action (List UInt32) :=
  ExceptT.mk <| (Link.exchange operations).bind fun answer => .done (answer.mapError .link)

def resolve (values : List UInt32) (index : Nat) : Except Error UInt32 :=
  match values[index]? with
  | some value => .ok value
  | none => .error (.link .unresolvedRead)

def readRegister (bus : Bus) (register : Core.Register) : Action UInt32 := do
  let values ← exchange [.read (bus.path register)]
  resolve values 0

def writeRegister (bus : Bus) (register : Core.Register) (value : UInt32) : Action Unit := do
  let _ ← exchange [.write (bus.path register) value]

/-! ## Slaves -/

def parseSlaves : List (String × String) → Except Error (List (String × UInt8))
  | [] => .ok []
  | (name, literal) :: rest => do
      let address ← parseAddress literal
      return (name, address) :: (← parseSlaves rest)

/-- Set up a bus, which looks at the address literals of its slaves once and for all. -/
def create (node : String) (slaves : List (String × String)) (config : Config) : Action Bus := do
  let addresses ← parseSlaves slaves
  let bus : Bus := { node, config, slaves := .ofList addresses }
  bus.remark .debug "Created I2C bus"
    [("prescale", .number bus.prescale.toNat), ("slaves", .number bus.slaves.keys.length)]
  return bus

def slaveAddress (bus : Bus) (name : String) : Except Error UInt8 :=
  match bus.slaves.get? name with
  | some address => .ok address
  | none => .error (.unknownSlave name)

def slaveNames (bus : Bus) : List String :=
  bus.slaves.keys.mergeSort (fun left right => decide (left ≤ right))

end Bus

end ClockBoard
