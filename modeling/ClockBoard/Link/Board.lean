import ClockBoard.Event
import ClockBoard.Link.Transport
import ClockBoard.Routine

/-!
The software reaches a board by exchanges: it sends accesses and gets the values of the reads back.
This module says what a routine may ask of a board, and what a board does about it.

All parts of the software share one transport behind a lock. Someone who fails while holding the
lock poisons it, and the transport may be taken away altogether; either way exchanges fail from
then on without reaching it.
-/

namespace ClockBoard.Link

inductive Request
  | exchange (operations : List Operation)
  | note (event : Event)

@[reducible] def interface : Interface where
  Request := Request
  Answer
    | .exchange _ => Except Error (List UInt32)
    | .note _ => Unit

def exchange (operations : List Operation) : Routine interface (Except Error (List UInt32)) :=
  .ask (Request.exchange operations) .done

def note (event : Event) : Routine interface Unit :=
  .ask (Request.note event) .done

inductive Access
  | free
  | poisoned
  | gone
deriving DecidableEq

structure Board (σ : Type) where
  transport : σ
  access : Access
  /-- The number of batches staged so far, which is the serial number of the next. -/
  staged : Nat
  events : Array Event

namespace Board

variable {σ α : Type}

def ofTransport (transport : σ) : Board σ where
  transport
  access := .free
  staged := 0
  events := #[]

def stage (board : Board σ) (operations : List Operation) : Batch × Board σ :=
  ({ serial := board.staged, operations }, { board with staged := board.staged + 1 })

variable [Transport σ]

def dispatchHeld (batch : Batch) : Board σ → Except Error Response × Board σ
  | ⟨transport, access, staged, events⟩ =>
      let carried := dispatch batch transport
      (carried.1, ⟨carried.2, access, staged, events⟩)

/-- Carry a batch through the lock that all parts of the software share. -/
def dispatchShared (batch : Batch) (board : Board σ) : Except Error Response × Board σ :=
  match board.access with
  | .free => board.dispatchHeld batch
  | .poisoned => (.error .poisoned, board)
  | .gone => (.error .dropped, board)

def readRegister (board : Board σ) (register : String) : Except Error UInt32 × Board σ :=
  let staged := board.stage []
  let read := staged.1.read register
  let carried := staged.2.dispatchHeld read.2
  (carried.1.bind fun response => response.get read.1, carried.2)

def writeRegister (board : Board σ) (register : String) (value : UInt32) :
    Except Error Unit × Board σ :=
  let staged := board.stage []
  let carried := staged.2.dispatchHeld (staged.1.write register value)
  (carried.1.map fun _ => (), carried.2)

/-- Serve a request. A response to another batch resolves none of the reads. -/
def serve : (request : Request) → Board σ → interface.Answer request × Board σ
  | .exchange operations, board =>
      let staged := board.stage operations
      let carried := staged.2.dispatchShared staged.1
      (carried.1.map fun response => response.valuesFor staged.1, carried.2)
  | .note event, board => ((), { board with events := board.events.push event })

def run (routine : Routine interface α) (board : Board σ) : α × Board σ :=
  routine.run serve board

end Board

end ClockBoard.Link
