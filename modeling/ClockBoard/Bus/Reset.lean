import ClockBoard.BytePair
import ClockBoard.Bus.Basic
import ClockBoard.Core.Word

/-!
A bus is reset before each transaction. A core whose divider is right already has its data and
command registers cleared; any other core is switched off, programmed, and switched on again, in
steps of one round trip each so that it sees them in this order.
-/

namespace ClockBoard.Bus

open ClockBoard.Core ClockBoard.Link

inductive ResetPath
  | short
  | full
deriving DecidableEq

def programming (bus : Bus) : List (Register × UInt32) :=
  [ (.control, Control.layout.toWord {}),
    (.prescaleHigh, (highByte bus.prescale).toUInt32),
    (.prescaleLow, (lowByte bus.prescale).toUInt32),
    (.data, 0),
    (.command, 0),
    (.control, Control.layout.toWord { enable := true }) ]

def reset (bus : Bus) : Action ResetPath := do
  let values ← exchange
    [.read (bus.path .control), .read (bus.path .prescaleHigh), .read (bus.path .prescaleLow)]
  let control := Control.layout.ofWord (← resolve values 0)
  let high ← resolve values 1
  let low ← resolve values 2
  let onBus := joinBytes high.toUInt8 low.toUInt8
  if onBus = bus.prescale then
    let _ ← exchange [.write (bus.path .data) 0, .write (bus.path .command) 0]
    bus.remark .trace "Short I2C reset" []
    return .short
  else
    bus.remark .debug "Prescale mismatch, fully resetting I2C core"
      [ ("on_bus", .number onBus.toNat),
        ("desired", .number bus.prescale.toNat),
        ("enabled", .flag control.enable) ]
    bus.programming.forM fun step => bus.writeRegister step.1 step.2
    return .full

end ClockBoard.Bus
