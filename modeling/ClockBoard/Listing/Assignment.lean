/-!
A register listing assigns values to the registers of a chip, in order.
-/

namespace ClockBoard

structure Assignment where
  address : UInt16
  value : UInt8
deriving DecidableEq

end ClockBoard
