/-!
The timing parameters of a bus, and the clock divider that they lead to.
-/

namespace ClockBoard.Bus

def defaultClockHz : UInt32 :=
  31250000

def defaultSclHz : UInt32 :=
  100000

structure Config where
  clockHz : UInt32 := defaultClockHz
  sclHz : UInt32 := defaultSclHz
  /-- The number of status reads after which a transfer is given up. -/
  pollAttempts : Nat := 20
  /-- The pause between status reads, in microseconds. -/
  pollInterval : Nat := 1000
deriving DecidableEq

/-- A core divides its clock by five times one more than its prescale. The divisor stops at the
largest number of 32 bits and the prescale at the largest of 16. -/
def Config.prescale (config : Config) : UInt16 :=
  let divisor := min (max config.sclHz.toNat 1 * 5) (UInt32.size - 1)
  let divided := config.clockHz.toNat / divisor
  UInt16.ofNat (min (divided - 1) (UInt16.size - 1))

example : Config.prescale {} = 61 := by decide

end ClockBoard.Bus
