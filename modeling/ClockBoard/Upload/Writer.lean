import ClockBoard.Event
import ClockBoard.Routine

/-!
An upload needs someone who writes registers. It is a routine over what such a writer can be asked
for, and so the same for every writer.
-/

namespace ClockBoard.Upload

inductive Request
  | write (address : UInt16) (value : UInt8)
  | settle (milliseconds : Nat)
  | note (event : Event)

@[reducible] def interface : Interface where
  Request := Request
  Answer
    | .write _ _ => Except String Unit
    | .settle _ => Unit
    | .note _ => Unit

def write (address : UInt16) (value : UInt8) : Routine interface (Except String Unit) :=
  .ask (Request.write address value) .done

def settle (milliseconds : Nat) : Routine interface Unit :=
  .ask (Request.settle milliseconds) .done

def note (level : Event.Level) (message : String) (fields : List (String × Event.Value)) :
    Routine interface Unit :=
  .ask (Request.note { level, message, fields }) .done

end ClockBoard.Upload
