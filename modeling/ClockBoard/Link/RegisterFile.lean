import ClockBoard.Link.Transport
import ClockBoard.Table

/-!
A register file stands in for a board. Each register is a cell of 32 bits, and a test may decide
what reads return: values queued for a register come first, then its standing answer, then what its
cell holds. A batch that names an unknown register changes nothing; all others are kept in a
journal.
-/

namespace ClockBoard.Link

structure RegisterFile where
  cells : Table String UInt32
  queued : Table String (List UInt32)
  standing : Table String UInt32
  journal : Array (List Operation)

namespace RegisterFile

def ofRegisters (registers : List String) : RegisterFile where
  cells := .ofList (registers.map fun register => (register, 0))
  queued := .empty
  standing := .empty
  journal := #[]

/-! ## Set up -/

def enqueue (file : RegisterFile) (register : String) (values : List UInt32) : RegisterFile :=
  let queue := (file.queued.get? register).getD []
  { file with queued := file.queued.insert register (queue ++ values) }

def answerWith (file : RegisterFile) (register : String) (value : UInt32) : RegisterFile :=
  { file with standing := file.standing.insert register value }

/-- Set a cell and leave no trace in the journal. -/
def poke (file : RegisterFile) (register : String) (value : UInt32) :
    Except Error RegisterFile :=
  if file.cells.contains register then
    .ok { file with cells := file.cells.insert register value }
  else
    .error (.missingRegister register)

def peek? (file : RegisterFile) (register : String) : Option UInt32 :=
  file.cells.get? register

/-! ## Access -/

/-- The value of one read, which uses up a queued value if there is one. -/
def serveRead (file : RegisterFile) (register : String) : UInt32 × RegisterFile :=
  match file.queued.get? register with
  | some (value :: rest) => (value, { file with queued := file.queued.insert register rest })
  | _ =>
      let held := (file.cells.get? register).getD 0
      ((file.standing.get? register).getD held, file)

def perform : List Operation → RegisterFile → List UInt32 × RegisterFile
  | [], file => ([], file)
  | .write register value :: rest, file =>
      perform rest { file with cells := file.cells.insert register value }
  | .read register :: rest, file =>
      let served := file.serveRead register
      let performed := perform rest served.2
      (served.1 :: performed.1, performed.2)

def carry (batch : Batch) (file : RegisterFile) : Except Error Response × RegisterFile :=
  match batch.firstUnknown? file.cells.contains with
  | some register => (.error (.missingRegister register), file)
  | none =>
      let performed := perform batch.operations file
      let file := performed.2
      (.ok (batch.respond performed.1), { file with journal := file.journal.push batch.operations })

instance : Transport RegisterFile := ⟨carry⟩

/-! ## Journal -/

def writesTo (file : RegisterFile) (register : String) : List UInt32 :=
  file.journal.toList.flatten.filterMap (Operation.valueFor? register)

def readsOf (file : RegisterFile) (register : String) : Nat :=
  file.journal.toList.flatten.countP (· = .read register)

def clearJournal (file : RegisterFile) : RegisterFile :=
  { file with journal := #[] }

end RegisterFile

end ClockBoard.Link
