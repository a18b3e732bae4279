/-!
Events are what the board's software says about its work as it goes on. They are data: whoever
listens decides what to keep and how to show it.
-/

namespace ClockBoard

inductive Event.Level
  | trace
  | debug
  | info
  | warn
deriving DecidableEq

inductive Event.Value
  | number (value : Nat)
  | flag (value : Bool)
  | text (value : String)
deriving DecidableEq

structure Event where
  level : Event.Level
  message : String
  fields : List (String × Event.Value)
deriving DecidableEq

end ClockBoard
