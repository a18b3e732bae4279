import ClockBoard.Link.Error

/-!
Registers are never accessed one at a time. Accesses are staged in a batch, in the order in which
they are to be carried out, and the whole batch makes one round trip. A staged read gives a token,
which only the response to the same batch can turn into a value.
-/

namespace ClockBoard.Link

inductive Operation
  | write (register : String) (value : UInt32)
  | read (register : String)
deriving DecidableEq

namespace Operation

def register : Operation → String
  | .write register _ => register
  | .read register => register

def valueFor? (register : String) : Operation → Option UInt32
  | .write target value => if target = register then some value else none
  | .read _ => none

def isRead : Operation → Bool
  | .write _ _ => false
  | .read _ => true

end Operation

/-- The promise of a value: the batch that staged the read, and the number of reads staged in it
before. -/
structure Pending where
  batch : Nat
  index : Nat
deriving DecidableEq

/-- Accesses staged for one round trip. Batches are told apart by serial numbers, and a copy of a
batch keeps its number. -/
structure Batch where
  serial : Nat
  operations : List Operation
deriving DecidableEq

/-- The values of the reads of a batch, in order. A response that answers no batch staged here
names none. -/
structure Response where
  batch : Option Nat
  values : List UInt32
deriving DecidableEq

namespace Batch

def reads (batch : Batch) : Nat :=
  batch.operations.countP Operation.isRead

def write (batch : Batch) (register : String) (value : UInt32) : Batch :=
  { batch with operations := batch.operations ++ [.write register value] }

def read (batch : Batch) (register : String) : Pending × Batch :=
  ({ batch := batch.serial, index := batch.reads },
    { batch with operations := batch.operations ++ [.read register] })

def respond (batch : Batch) (values : List UInt32) : Response :=
  { batch := some batch.serial, values }

def firstUnknown? (batch : Batch) (known : String → Bool) : Option String :=
  (batch.operations.map Operation.register).find? fun register => !known register

end Batch

namespace Response

def get (response : Response) (pending : Pending) : Except Error UInt32 :=
  if response.batch = some pending.batch then
    match response.values[pending.index]? with
    | some value => .ok value
    | none => .error .unresolvedRead
  else
    .error .unresolvedRead

def valuesFor (response : Response) (batch : Batch) : List UInt32 :=
  if response.batch = some batch.serial then response.values else []

end Response

end ClockBoard.Link
