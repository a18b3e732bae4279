import ClockBoard.Layout.Basic

/-!
The words that an I2C core understands: commands, its status, and its control bits. Each byte on
the wire is one command, and a command moves a byte in one direction only.
-/

namespace ClockBoard.Core

/-- A command. `ack` leaves a byte that was read unacknowledged, and `iack` clears an interrupt. -/
structure Command where
  start : Bool := false
  stop : Bool := false
  read : Bool := false
  write : Bool := false
  ack : Bool := false
  iack : Bool := false
deriving DecidableEq

namespace Command

def layout : Layout Command where
  bytes := 1
  blank := {}
  fields :=
    [ .flag "start" 7 start fun value command => { command with start := value },
      .flag "stop" 6 stop fun value command => { command with stop := value },
      .flag "read" 5 read fun value command => { command with read := value },
      .flag "write" 4 write fun value command => { command with write := value },
      .flag "ack" 3 ack fun value command => { command with ack := value },
      .flag "iack" 0 iack fun value command => { command with iack := value } ]

/-- The word that issues a command, if the command asks for one direction at most. -/
def word? (command : Command) : Option UInt32 :=
  if command.read && command.write then none else some (layout.toWord command)

end Command

/-- The state of a core. `rxNack` tells that the last byte was not acknowledged, and `busy` that
the bus was started and not yet stopped. -/
structure Status where
  rxNack : Bool := false
  busy : Bool := false
  arbitrationLost : Bool := false
  transferInProgress : Bool := false
  interrupt : Bool := false
deriving DecidableEq

namespace Status

def layout : Layout Status where
  bytes := 1
  blank := {}
  fields :=
    [ .flag "rx_nack" 7 rxNack fun value status => { status with rxNack := value },
      .flag "busy" 6 busy fun value status => { status with busy := value },
      .flag "arbitration_lost" 5 arbitrationLost fun value status =>
        { status with arbitrationLost := value },
      .flag "transfer_in_progress" 1 transferInProgress fun value status =>
        { status with transferInProgress := value },
      .flag "interrupt" 0 interrupt fun value status => { status with interrupt := value } ]

def ackReceived (status : Status) : Bool :=
  !status.rxNack

def text (status : Status) : String :=
  let flags := layout.fields.map fun field =>
    field.name ++ ": " ++ if field.get status = 0 then "false" else "true"
  "Status \x7b " ++ ", ".intercalate flags ++ " \x7d"

end Status

structure Control where
  enable : Bool := false
  interruptEnable : Bool := false
deriving DecidableEq

def Control.layout : Layout Control where
  bytes := 1
  blank := {}
  fields :=
    [ .flag "enable" 7 enable fun value control => { control with enable := value },
      .flag "interrupt_enable" 6 interruptEnable fun value control =>
        { control with interruptEnable := value } ]

example : Command.word? { start := true, write := true } = some 0x90 := by decide
example : Command.word? { read := true, stop := true, ack := true } = some 0x68 := by decide
example : Command.layout.declared = 0xF9 := by decide
example : Status.layout.declared = 0xE3 := by decide

end ClockBoard.Core
