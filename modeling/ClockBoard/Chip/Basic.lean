import ClockBoard.Chip.Error
import ClockBoard.Handle
import ClockBoard.Upload.Basic

/-!
A chip is driven through the handle of its slave. A chip whose registers can be written one by one
serves as the writer of an upload.
-/

namespace ClockBoard.Chip

abbrev Action (α : Type) : Type 1 :=
  ExceptT Error (Routine Handle.interface) α

instance : MonadLift Handle.Action Action where
  monadLift action := ExceptT.adapt Error.bus action

/-- Answer the requests of an upload by a chip's own way to write a register. Failures are passed
on as text. -/
def asWriter (write : UInt16 → UInt8 → Action Unit) :
    (request : Upload.Request) → Routine Handle.interface (Upload.interface.Answer request)
  | .write address value =>
      (write address value).run.bind fun answer => .done (answer.mapError Error.message)
  | .settle _ => .done ()
  | .note event => Handle.note event

def upload {α : Type} (write : UInt16 → UInt8 → Action Unit)
    (routine : Routine Upload.interface α) : Routine Handle.interface α :=
  routine.carryOut (asWriter write)

def configure (write : UInt16 → UInt8 → Action Unit)
    (routine : Routine Upload.interface (Except Upload.Error Upload.Outcome)) :
    Action Upload.Outcome :=
  ExceptT.mk <| (upload write routine).bind fun answer => .done (answer.mapError .upload)

def announce (handle : Handle) (message : String) : Action Unit :=
  ExceptT.lift <| Handle.note
    { level := .debug, message, fields := [("address", .number handle.address.toNat)] }

end ClockBoard.Chip
