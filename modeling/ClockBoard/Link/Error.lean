/-!
What can go wrong between the software and the registers of a board.
-/

namespace ClockBoard.Link

inductive Error
  | missingRegister (register : String)
  | unresolvedRead
  | dropped
  | poisoned
  | packing
  | io
deriving DecidableEq

def Error.message : Error → String
  | .missingRegister register => "Requested register doesn't exist - `" ++ register ++ "`"
  | .unresolvedRead => "A pending read was resolved against a response it doesn't belong to"
  | .dropped => "The transport this object refers to has been dropped"
  | .poisoned => "The transport lock was poisoned"
  | .packing => "Error packing or unpacking a register layout"
  | .io => "Internal system IO error"

end ClockBoard.Link
