import ClockBoard.Bus.Error
import ClockBoard.Upload.Policy

/-!
What can go wrong with a chip.
-/

namespace ClockBoard.Chip

inductive Error
  | bus (error : Bus.Error)
  | upload (error : Upload.Error)
  | invalidBank (bank : UInt8)
  | invalidChannel (channel : UInt8)
  | addressOutOfRange (address : UInt16)
  | diagnosticsUnsupported
  | externalCalibration
deriving DecidableEq

def Error.message : Error → String
  | .bus error => error.message
  | .upload error => error.message
  | .invalidBank bank => "Invalid bank id " ++ toString bank.toNat
  | .invalidChannel channel => "Invalid channel id " ++ toString channel.toNat
  | .addressOutOfRange address =>
      "Register address " ++ Text.hexText 4 address.toNat ++
        " is outside the chip's register space"
  | .diagnosticsUnsupported => "The SFP does not implement digital diagnostic monitoring"
  | .externalCalibration => "The SFP's diagnostics are only externally calibrated"

end ClockBoard.Chip
