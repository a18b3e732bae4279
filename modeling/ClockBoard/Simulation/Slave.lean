import ClockBoard.BytePair

/-!
A simulated slave is a file of byte registers with a pointer that moves on by one after each
access. A paged slave has 256 pages of 256 registers; its register 1 is on every page, and selects
the page that the pointer works on.
-/

namespace ClockBoard.Simulation

def pageRegister : UInt8 :=
  1

structure Slave where
  memory : Array UInt8
  paged : Bool
  page : UInt8
  pointer : UInt8
  /-- The number of register writes that will be refused. -/
  refusals : Nat
  /-- The register writes that were acknowledged, in order. -/
  writes : Array (UInt16 × UInt8)

namespace Slave

def zeroed (paged : Bool) (size : Nat) : Slave where
  memory := Array.replicate size 0
  paged
  page := 0
  pointer := 0
  refusals := 0
  writes := #[]

def flat : Slave :=
  zeroed false 0x100

def pages : Slave :=
  zeroed true 0x10000

/-- The memory cell of a register, whose address wraps at the end of the memory. -/
def cellOf (slave : Slave) (register : UInt16) : Nat :=
  register.toNat % slave.memory.size

def preload (slave : Slave) (register : UInt16) (value : UInt8) : Slave :=
  let cell := slave.cellOf register
  { slave with memory := slave.memory.setIfInBounds cell value }

def preloadAll (slave : Slave) (register : UInt16) : List UInt8 → Slave
  | [] => slave
  | value :: rest => (slave.preload register value).preloadAll (register + 1) rest

def get (slave : Slave) (register : UInt16) : UInt8 :=
  slave.memory[slave.cellOf register]?.getD 0

def refuseWrites (slave : Slave) (count : Nat) : Slave :=
  { slave with refusals := count }

/-! ## Access by the bus -/

def pointTo (slave : Slave) (pointer : UInt8) : Slave :=
  { slave with pointer }

def current (slave : Slave) : UInt16 :=
  joinBytes (if slave.paged then slave.page else 0) slave.pointer

def atPageRegister (slave : Slave) : Bool :=
  slave.paged && slave.pointer == pageRegister

/-- Take a byte into the current register, unless writes are refused. Tells whether it was
acknowledged. -/
def store (slave : Slave) (value : UInt8) : Bool × Slave :=
  if slave.refusals > 0 then
    (false, { slave with refusals := slave.refusals - 1 })
  else
    let register := slave.current
    let page := if slave.atPageRegister then value else slave.page
    let pointer := slave.pointer + 1
    (true, { slave with
      memory := slave.memory.setIfInBounds register.toNat value
      writes := slave.writes.push (register, value)
      page
      pointer })

/-- Give the byte in the current register. The page register holds the current page. -/
def load (slave : Slave) : UInt8 × Slave :=
  let value :=
    if slave.atPageRegister then slave.page else slave.memory[slave.current.toNat]?.getD 0
  (value, { slave with pointer := slave.pointer + 1 })

end Slave

end ClockBoard.Simulation
