import ClockBoard.Link.Error
import ClockBoard.Text.Numeral

/-!
What can go wrong on an I2C bus.
-/

namespace ClockBoard.Bus

inductive Error
  | arbitrationLost
  | timeout (attempts : Nat)
  | noAcknowledge
  | stillBusy
  | unknownSlave (name : String)
  | invalidAddress (literal : String)
  | addressOutOfRange (address : UInt8)
  | conflictingDirection
  | link (error : Link.Error)
deriving DecidableEq

def Error.message : Error → String
  | .arbitrationLost => "Arbitration lost on the I2C bus"
  | .timeout attempts =>
      "I2C transfer still in progress after " ++ toString attempts ++ " status polls"
  | .noAcknowledge => "No acknowledgement from the I2C slave"
  | .stillBusy => "I2C bus still busy after a transfer that should have released it"
  | .unknownSlave name => "No I2C slave named `" ++ name ++ "` on this bus"
  | .invalidAddress literal => "Invalid I2C address literal `" ++ literal ++ "`"
  | .addressOutOfRange address =>
      "I2C address " ++ Text.hexText 2 address.toNat ++ " is outside the 7-bit range"
  | .conflictingDirection => "I2C command requests both a read and a write"
  | .link error => error.message

end ClockBoard.Bus
