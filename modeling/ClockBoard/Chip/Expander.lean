import ClockBoard.Chip.Basic

/-!
An expander has sixteen pins in two banks of eight. Each kind of register has one for each bank,
and the register of the second bank follows that of the first.
-/

namespace ClockBoard.Chip

structure Expander where
  handle : Handle

namespace Expander

/-- The kinds of register. A pin whose bit in `config` is set is an input. -/
inductive Kind
  | input
  | output
  | inversion
  | config
deriving DecidableEq

def Kind.base : Kind → UInt8
  | .input => 0
  | .output => 2
  | .inversion => 4
  | .config => 6

def banks : UInt8 :=
  2

def channels : UInt8 :=
  8

def registerOf (kind : Kind) (bank : UInt8) : Except Error UInt8 :=
  if bank < banks then .ok (kind.base + bank) else .error (.invalidBank bank)

def write (expander : Expander) (kind : Kind) (bank value : UInt8) : Action Unit := do
  let register ← registerOf kind bank
  expander.handle.writeRegister register value

def read (expander : Expander) (kind : Kind) (bank : UInt8) : Action UInt8 := do
  let register ← registerOf kind bank
  expander.handle.readRegister register

/-! ## Pins -/

def setInversion (expander : Expander) (bank mask : UInt8) : Action Unit :=
  expander.write .inversion bank mask

def setInputs (expander : Expander) (bank inputs : UInt8) : Action Unit :=
  expander.write .config bank inputs

def setOutputs (expander : Expander) (bank levels : UInt8) : Action Unit :=
  expander.write .output bank levels

def withChannel (levels channel : UInt8) (level : Bool) : UInt8 :=
  if level then levels ||| (1 <<< channel) else levels &&& ~~~(1 <<< channel)

/-- Set one channel of a bank. The old levels are read and the new ones written under one hold of
the bus, so that nothing which others write to the bank is lost. -/
def setOutput (expander : Expander) (bank channel : UInt8) (level : Bool) : Action Unit := do
  let register ← registerOf .output bank
  if channel ≥ channels then
    throw (.invalidChannel channel)
  expander.handle.withBus fun bus address => do
    let levels := (← bus.readArray address register 1).headD 0
    bus.writeArray address register [withChannel levels channel level] true

def readInputs (expander : Expander) (bank : UInt8) : Action UInt8 :=
  expander.read .input bank

/-- The levels that were last set, whatever the pins are at. -/
def readOutputs (expander : Expander) (bank : UInt8) : Action UInt8 :=
  expander.read .output bank

def readConfig (expander : Expander) (bank : UInt8) : Action UInt8 :=
  expander.read .config bank

end Expander

end ClockBoard.Chip
