import Mathlib.Data.List.Infix
import ClockBoard.Proofs.Bus.Bare
import ClockBoard.Proofs.Bus.ResetPlan

/-!
A full reset leaves the prescale in the registers of the core, so that the reset after it is short.
This takes a core that keeps what is written to it: one of a register file that answers reads with
its cells, or a simulated circuit.

The main statement has the batches of a reset of any board, and what comes after a full one on
these two.
-/

namespace ClockBoard.Link.RegisterFile

variable {operations : List Operation} {values : List UInt32} {board later : Board RegisterFile}

/-- Whether reads of a register give what its cell holds: no values are queued for it, and it has no
standing answer. -/
def Unanswered (register : String) (file : RegisterFile) : Prop :=
  (file.queued.get? register).getD [] = [] ∧ file.standing.get? register = none

def carrying (board : Board RegisterFile) (operations : List Operation) : Board RegisterFile :=
  { board with
    transport := close ⟨board.staged, operations⟩ (perform operations board.transport).2
    staged := board.staged + 1 }

theorem serve_known (free : board.access = .free)
    (known : ∀ operation ∈ operations,
      board.transport.cells.contains operation.register = true) :
    board.serve (.exchange operations) =
      (.ok (perform operations board.transport).1, carrying board operations) := by
  rcases board with ⟨file, access, staged, events⟩
  cases free
  have checked : Batch.firstUnknown? ⟨staged, operations⟩ file.cells.contains = none :=
    Batch.firstUnknown?_eq_none.mpr known
  simp only [Board.serve, Board.stage, Board.dispatchShared, Board.dispatchHeld, dispatch, carry,
    checked, Except.map, Response.valuesFor, Batch.respond, if_true]
  rfl

theorem known_of_serve (served : board.serve (.exchange operations) = (.ok values, later)) :
    board.access = .free ∧
      ∀ operation ∈ operations, board.transport.cells.contains operation.register = true := by
  rcases board with ⟨file, access, staged, events⟩
  cases access with
  | poisoned => cases served
  | gone => cases served
  | free =>
      cases checked : Batch.firstUnknown? ⟨staged, operations⟩ file.cells.contains with
      | none => exact ⟨rfl, Batch.firstUnknown?_eq_none.mp checked⟩
      | some register =>
          simp only [Board.serve, Board.stage, Board.dispatchShared, Board.dispatchHeld, dispatch,
            carry, checked] at served
          cases served

end ClockBoard.Link.RegisterFile

namespace ClockBoard.Bus

open ClockBoard.Core ClockBoard.Link ClockBoard.Simulation

variable {bus : Bus}

theorem run_reset_decided {σ : Type} [Transport σ] {board middle : Board σ}
    {control high low : UInt32} {more : List UInt32}
    (served : board.serve (.exchange bus.lookUp) = (.ok (control :: high :: low :: more), middle)) :
    board.run bus.reset.run =
      middle.run
        (if joinBytes high.toUInt8 low.toUInt8 = bus.prescale then bus.shortReset
          else bus.fullReset (joinBytes high.toUInt8 low.toUInt8)
            (Control.layout.ofWord control)).run := by
  rw [reset_eq]
  exact Routine.run_bind_ok (makes_exchange served).run

def writtenTo (bus : Bus) (cells : Table String UInt32) (steps : List (Register × UInt32)) :
    Table String UInt32 :=
  steps.foldl (fun cells step => cells.insert (bus.path step.1) step.2) cells

theorem cells_of_writes {steps : List (Register × UInt32)} {board later : Board RegisterFile}
    (ran : board.run (steps.forM fun step => bus.writeRegister step.1 step.2).run =
      (.ok (), later)) :
    later.transport.cells = bus.writtenTo board.transport.cells steps ∧
      later.transport.queued = board.transport.queued ∧
      later.transport.standing = board.transport.standing := by
  induction steps generalizing board with
  | nil =>
      cases ran
      exact ⟨rfl, rfl, rfl⟩
  | cons step rest induction =>
      rcases served : board.serve (.exchange [.write (bus.path step.1) step.2]) with
        ⟨answer, middle⟩
      have written := (makes_writeRegister served).run
      cases answer with
      | error error =>
          have failed := (Routine.run_bind_error written).symm.trans ran
          cases failed
      | ok values =>
          obtain ⟨free, known⟩ := RegisterFile.known_of_serve served
          cases (RegisterFile.serve_known free known).symm.trans served
          exact induction ((Routine.run_bind_ok written).symm.trans ran)

theorem perform_lookUp_cells {file : RegisterFile}
    (unanswered : ∀ register, file.Unanswered (bus.path register)) :
    RegisterFile.perform bus.lookUp file =
      ([ (file.cells.get? (bus.path .control)).getD 0,
         (file.cells.get? (bus.path .prescaleHigh)).getD 0,
         (file.cells.get? (bus.path .prescaleLow)).getD 0 ], file) := by
  have read (register : Register) : file.serveRead (bus.path register) =
      ((file.cells.get? (bus.path register)).getD 0, file) := by
    obtain ⟨queued, standing⟩ := unanswered register
    rw [RegisterFile.serveRead, standing]
    rcases values : file.queued.get? (bus.path register) with _ | _ | ⟨value, rest⟩
    · rfl
    · rfl
    · rw [values] at queued
      cases queued
  simp only [lookUp, RegisterFile.perform, read]

def Holds (bus : Bus) (file : RegisterFile) : Prop :=
  file.peek? (bus.path .prescaleHigh) = some (UInt32.ofNat (bus.prescale.toNat / 256)) ∧
    file.peek? (bus.path .prescaleLow) = some (UInt32.ofNat (bus.prescale.toNat % 256))

/-- A register file in which a core is programmed, where nothing else answers its reads. -/
structure Programmed (bus : Bus) (file : RegisterFile) : Prop where
  unanswered : ∀ register, file.Unanswered (bus.path register)
  known : ∀ register, file.cells.contains (bus.path register) = true
  holds : bus.Holds file

theorem serve_lookUp {board : Board RegisterFile} (free : board.access = .free)
    (known : ∀ operation ∈ bus.lookUp,
      board.transport.cells.contains operation.register = true)
    (unanswered : ∀ register, board.transport.Unanswered (bus.path register)) :
    ∃ middle : Board RegisterFile,
      board.serve (.exchange bus.lookUp) =
        (.ok [ (board.transport.cells.get? (bus.path .control)).getD 0,
            (board.transport.cells.get? (bus.path .prescaleHigh)).getD 0,
            (board.transport.cells.get? (bus.path .prescaleLow)).getD 0 ], middle) ∧
      middle.access = .free ∧
      middle.transport = RegisterFile.close ⟨board.staged, bus.lookUp⟩ board.transport := by
  have served := RegisterFile.serve_known free known
  rw [RegisterFile.carrying, perform_lookUp_cells unanswered] at served
  exact ⟨_, served, free, rfl⟩

theorem cells_of_fullReset {board later : Board RegisterFile} {onBus : UInt16} {control : Control}
    (ran : board.run (bus.fullReset onBus control).run = (.ok .full, later)) :
    later.transport.cells = bus.writtenTo board.transport.cells bus.programming ∧
      later.transport.queued = board.transport.queued ∧
      later.transport.standing = board.transport.standing := by
  have noted := bus.makes_remark .debug "Prescale mismatch, fully resetting I2C core"
    [ ("on_bus", .number onBus.toNat), ("desired", .number bus.prescale.toNat),
      ("enabled", .flag control.enable) ] board
  have writing := (Routine.run_bind_ok noted.run).symm.trans ran
  rcases wrote : (board.noting _).run
    (bus.programming.forM fun step => bus.writeRegister step.1 step.2).run with ⟨result, after⟩
  cases result with
  | error error =>
      have failed := (Routine.run_bind_error wrote).symm.trans writing
      cases failed
  | ok done =>
      have finished := (Routine.run_bind_ok wrote).symm.trans writing
      cases finished
      have cells := cells_of_writes wrote
      exact cells

theorem get?_writtenTo (bus : Bus) (cells : Table String UInt32)
    (steps : List (Register × UInt32)) (register : Register) :
    (bus.writtenTo cells steps).get? (bus.path register) =
      ((steps.reverse.find? (·.1 = register)).map Prod.snd).or
        (cells.get? (bus.path register)) := by
  induction steps generalizing cells with
  | nil => rfl
  | cons step rest induction =>
      have path : bus.path step.1 = bus.path register ↔ step.1 = register :=
        (Register.path_injective bus.node).eq_iff
      have last : (cells.insert (bus.path step.1) step.2).get? (bus.path register) =
          (([step].find? (·.1 = register)).map Prod.snd).or (cells.get? (bus.path register)) := by
        by_cases same : step.1 = register
        · simp [Table.get?_insert, same]
        · simp [Table.get?_insert, path, same]
      rw [List.reverse_cons, List.find?_append, Option.map_or, Option.or_assoc, ← last]
      exact induction _

theorem programmed_cells (bus : Bus) (cells : Table String UInt32) :
    let written := bus.writtenTo cells bus.programming
    (∀ register : Register, written.contains (bus.path register) = true) ∧
      written.get? (bus.path .prescaleHigh) =
        some (UInt32.ofNat (bus.prescale.toNat / 256)) ∧
      written.get? (bus.path .prescaleLow) =
        some (UInt32.ofNat (bus.prescale.toNat % 256)) := by
  intro written
  have value (register : Register) : written.get? (bus.path register) =
      ((bus.programming.reverse.find? (·.1 = register)).map Prod.snd).or
        (cells.get? (bus.path register)) :=
    get?_writtenTo bus cells bus.programming register
  refine ⟨?_, ?_, ?_⟩
  · intro register
    rw [Table.contains, value]
    cases register <;> rfl
  · rw [value, ← toUInt32_of_toNat (toNat_highByte _)]
    rfl
  · rw [value, ← toUInt32_of_toNat (toNat_lowByte _)]
    rfl

theorem lookUp_of_ok {σ : Type} [Transport σ] {board : Board σ} {path : ResetPath}
    (went : (board.run bus.reset.run).1 = .ok path) :
    ∃ values middle, board.serve (.exchange bus.lookUp) = (.ok values, middle) := by
  have whole : board.run bus.reset.run = (.ok path, (board.run bus.reset.run).2) :=
    Prod.ext went rfl
  rcases served : board.serve (.exchange bus.lookUp) with ⟨answer, middle⟩
  cases answer with
  | error error =>
      have failed := (Routine.run_bind_error (makes_exchange served).run).symm.trans whole
      cases failed
  | ok values => exact ⟨values, middle, rfl⟩

theorem programmed_of_full {board : Board RegisterFile}
    (unanswered : ∀ register, board.transport.Unanswered (bus.path register))
    (full : (board.run bus.reset.run).1 = .ok .full) :
    board.access = .free ∧ bus.Programmed (board.run bus.reset.run).2.transport := by
  have whole : board.run bus.reset.run = (.ok .full, (board.run bus.reset.run).2) :=
    Prod.ext full rfl
  obtain ⟨values, _, served⟩ := lookUp_of_ok full
  obtain ⟨free, known⟩ := RegisterFile.known_of_serve served
  refine ⟨free, ?_⟩
  obtain ⟨reached, looked, _, journal⟩ := serve_lookUp free known unanswered
  have decided := (run_reset_decided looked).symm.trans whole
  split at decided
  · rcases clears : reached.serve (.exchange bus.clearing) with ⟨cleared, after⟩
    obtain ⟨later, short, _⟩ := makes_shortReset clears
    have same := short.run.symm.trans decided
    cases cleared <;> cases same
  · obtain ⟨cells, queued, standing⟩ := cells_of_fullReset decided
    obtain ⟨every, high, low⟩ := bus.programmed_cells reached.transport.cells
    refine ⟨?_, ?_, ?_⟩
    · intro register
      rw [RegisterFile.Unanswered, queued, standing, journal]
      exact unanswered register
    · rw [cells]
      exact every
    · rw [Holds, RegisterFile.peek?, RegisterFile.peek?, cells]
      exact ⟨high, low⟩

theorem joinBytes_of_prescale (bus : Bus) :
    joinBytes (UInt32.ofNat (bus.prescale.toNat / 256)).toUInt8
      (UInt32.ofNat (bus.prescale.toNat % 256)).toUInt8 = bus.prescale := by
  have bound := bus.prescale.toNat_lt
  rw [joinBytes_eq_prescale_iff]
  simp only [UInt32.toNat_ofNat']
  omega

theorem Programmed.clearing {file : RegisterFile} (programmed : bus.Programmed file)
    (serial : Nat) :
    bus.Programmed (RegisterFile.close ⟨serial, bus.clearing⟩
      (RegisterFile.perform bus.clearing file).2) := by
  have paths (one two : Register) : bus.path one = bus.path two ↔ one = two :=
    (Register.path_injective bus.node).eq_iff
  have kept (register : Register) (other : register ≠ .data ∧ register ≠ .command) :
      ((file.cells.insert (bus.path .data) 0).insert (bus.path .command) 0).get?
        (bus.path register) = file.cells.get? (bus.path register) := by
    simp only [Table.get?_insert, paths, other.1.symm, other.2.symm, if_false]
  refine ⟨programmed.unanswered, ?_, ?_⟩
  · intro register
    have was := programmed.known register
    simp only [Table.contains] at was
    simp only [RegisterFile.close, RegisterFile.perform, Bus.clearing, Table.contains,
      Table.get?_insert]
    split
    · rfl
    · split
      · rfl
      · exact was
  · have holds := programmed.holds
    simp only [Holds, RegisterFile.peek?] at holds
    simp only [Holds, RegisterFile.peek?, RegisterFile.close, RegisterFile.perform, Bus.clearing]
    rw [kept .prescaleHigh (by decide), kept .prescaleLow (by decide)]
    exact holds

theorem Programmed.reset {board : Board RegisterFile} (free : board.access = .free)
    (programmed : bus.Programmed board.transport) :
    ∃ later, board.run bus.reset.run = (.ok .short, later) ∧ bus.Programmed later.transport := by
  have known : ∀ operation ∈ bus.lookUp,
      board.transport.cells.contains operation.register = true := by
    simp [lookUp, Operation.register, programmed.known]
  obtain ⟨middle, looked, stays, journal⟩ := serve_lookUp free known programmed.unanswered
  have still : bus.Programmed middle.transport := by
    rw [journal]
    exact ⟨programmed.unanswered, programmed.known, programmed.holds⟩
  have others : ∀ operation ∈ bus.clearing,
      middle.transport.cells.contains operation.register = true := by
    simp [Bus.clearing, Operation.register, still.known]
  have cleared := RegisterFile.serve_known stays others
  obtain ⟨later, short, reached⟩ := makes_shortReset cleared
  have high : board.transport.cells.get? (bus.path .prescaleHigh) = _ := programmed.holds.1
  have low : board.transport.cells.get? (bus.path .prescaleLow) = _ := programmed.holds.2
  rw [run_reset_decided looked, high, low, Option.getD_some, Option.getD_some,
    if_pos bus.joinBytes_of_prescale]
  refine ⟨later, short.run, ?_⟩
  rw [reached]
  exact still.clearing middle.staged

theorem reset_after_full_file {board : Board RegisterFile}
    (unanswered : ∀ register, board.transport.Unanswered (bus.path register))
    (full : (board.run bus.reset.run).1 = .ok .full) :
    let ended := board.run bus.reset.run
    let again := ended.2.run bus.reset.run
    bus.Holds ended.2.transport ∧ again.1 = .ok .short ∧ bus.Holds again.2.transport := by
  intro ended again
  obtain ⟨free, programmed⟩ := programmed_of_full unanswered full
  have stays := (Board.run_access bus.reset.run board).trans free
  obtain ⟨later, short, still⟩ := programmed.reset stays
  have isAgain : again = (.ok .short, later) := short
  rw [isAgain]
  exact ⟨programmed.holds, rfl, still.holds⟩

/-! ## Circuits -/

theorem node_of_path {node other : String} {register : Register}
    (same : register.path node = register.path other) : node = other := by
  have long (node : String) : register.leaf ≠ node ++ "." ++ register.leaf := by
    intro equal
    have lengths := congrArg String.length equal
    simp only [String.length_append] at lengths
    have dot : ".".length = 1 := rfl
    omega
  unfold Register.path registerPath at same
  by_cases root : node.isEmpty <;> by_cases otherRoot : other.isEmpty
  · rw [String.isEmpty_iff.mp root, String.isEmpty_iff.mp otherRoot]
  · rw [if_pos root, if_neg otherRoot] at same
    exact absurd same (long other)
  · rw [if_neg root, if_pos otherRoot] at same
    exact absurd same.symm (long node)
  · rw [if_neg root, if_neg otherRoot, String.append_left_inj, String.append_left_inj] at same
    exact same

theorem node_of_serve {operations : List Operation} {register : Register} {values : List UInt32}
    {board later : Board Circuit}
    (served : board.serve (.exchange operations) = (.ok values, later))
    (named : bus.path register ∈ operations.map Operation.register) :
    board.access = .free ∧ board.transport.node = bus.node := by
  rcases board with ⟨circuit, access, staged, events⟩
  cases access with
  | poisoned => cases served
  | gone => cases served
  | free =>
      refine ⟨rfl, ?_⟩
      have answered : (Circuit.serve (.exchange operations) circuit).1 = .ok values := by
        rw [← (Circuit.board_serve (.exchange operations) ⟨circuit, .free, staged, events⟩ rfl).1,
          served]
      cases checked : Batch.firstUnknown? ⟨0, operations⟩
          fun path => (Register.ofPath? circuit.node path).isSome with
      | some unknown =>
          simp only [Circuit.serve, Circuit.carry, checked] at answered
          cases answered
      | none =>
          have knows := List.find?_eq_none.mp checked _ named
          simp only [Bool.not_eq_true, Bool.not_eq_false', Option.isSome_iff_exists] at knows
          obtain ⟨found, isFound⟩ := knows
          have same : found.path circuit.node = bus.path register := by
            simpa using List.find?_some isFound
          rw [Register.eq_of_ofPath? isFound] at same
          exact node_of_path same

theorem reset_after_full_circuit {board : Board Circuit}
    (full : (board.run bus.reset.run).1 = .ok .full) :
    let ended := board.run bus.reset.run
    let again := ended.2.run bus.reset.run
    ended.2.transport.prescale = bus.prescale ∧ again.1 = .ok .short ∧
      again.2.transport.prescale = bus.prescale := by
  intro ended again
  obtain ⟨values, middle, served⟩ := lookUp_of_ok full
  have named : bus.path .control ∈ bus.lookUp.map Operation.register := List.mem_cons_self
  obtain ⟨free, node⟩ := node_of_serve served named
  have once := Circuit.board_run bus.reset.run board free
  have stays := (Board.run_access bus.reset.run board).trans free
  have twice := Circuit.board_run bus.reset.run ended.2 stays
  rw [reset_run node] at once
  have wrong : board.transport.prescale ≠ bus.prescale := by
    intro right
    rw [if_pos right] at once
    have short := once.1.symm.trans full
    cases short
  rw [if_neg wrong, program_programming] at once
  have right : ended.2.transport.prescale = bus.prescale := by
    rw [once.2]
    exact joinBytes_highByte_lowByte bus.prescale
  have still : ended.2.transport.node = bus.node := by
    rw [once.2]
    exact node
  rw [reset_run still, if_pos right] at twice
  refine ⟨right, twice.1, ?_⟩
  rw [twice.2]
  exact right

/-! ## Resets -/

theorem Follows.full {plan : List (List Operation)} {rest : List Exchange}
    {ended : Except Error Unit} {result : Except Error ResetPath}
    (follows : Follows plan rest ended) (isResult : result = ended.map fun _ => .full) :
    (result = .ok .full ↔
      rest.map Exchange.operations = plan ∧ ∀ exchange ∈ rest, exchange.passed = true) ∧
    (result = .ok .full ∨ ∃ done batch error, rest = done ++ [⟨batch, .error error⟩] ∧
      (∀ exchange ∈ done, exchange.passed = true) ∧ result = .error (.link error)) := by
  obtain ⟨all, well, went⟩ | ⟨done, batch, error, isRest, well, failed⟩ := follows.cases
  · have full : result = .ok .full := by rw [isResult, went]; rfl
    exact ⟨⟨fun _ => ⟨all, well⟩, fun _ => full⟩, .inl full⟩
  · have stopped : result = .error (.link error) := by rw [isResult, failed]; rfl
    refine ⟨⟨?_, ?_⟩, .inr ⟨done, batch, error, isRest, well, stopped⟩⟩
    · intro full
      cases full.symm.trans stopped
    · intro passed
      have member : ⟨batch, .error error⟩ ∈ rest := by
        rw [isRest]
        exact List.mem_append_right done List.mem_cons_self
      cases passed.2 _ member

/-- A reset looks up the prescale in its first batch. If that fails or gives too few values nothing
follows. If the low bytes make up the prescale, one batch clears the core and the reset is short.
Otherwise batches of the plan for a full reset follow, up to the first that fails, and the reset is
full exactly if all of them went well.

After a full reset of a circuit, or of a register file that answers reads of the core with its
cells, the core holds the prescale and the next reset is short. -/
theorem reset_planned (bus : Bus) :
    (∀ (σ : Type) [Transport σ] (board : Board σ),
      let result := (board.run bus.reset.run).1
      ∃ answer rest, board.exchanges bus.reset.run = ⟨bus.lookUp, answer⟩ :: rest ∧
        match answer with
        | .error error => rest = [] ∧ result = .error (.link error)
        | .ok (_ :: high :: low :: _) =>
            (high.toNat % 256 * 256 + low.toNat % 256 = bus.prescale.toNat →
              ∃ cleared, rest = [⟨bus.clearing, cleared⟩] ∧
                result = (cleared.map fun _ => ResetPath.short).mapError .link) ∧
            (high.toNat % 256 * 256 + low.toNat % 256 ≠ bus.prescale.toNat →
              rest.map Exchange.operations <+: bus.resetPlan ∧
              (result = .ok .full ↔ rest.map Exchange.operations = bus.resetPlan ∧
                ∀ exchange ∈ rest, exchange.passed = true) ∧
              (result = .ok .full ∨ ∃ done batch error,
                rest = done ++ [⟨batch, .error error⟩] ∧
                (∀ exchange ∈ done, exchange.passed = true) ∧
                result = .error (.link error)))
        | .ok _ => rest = [] ∧ result = .error (.link .unresolvedRead)) ∧
    (∀ board : Board RegisterFile,
      (∀ register, board.transport.Unanswered (bus.path register)) →
      let ended := board.run bus.reset.run
      let again := ended.2.run bus.reset.run
      ended.1 = .ok .full →
        bus.Holds ended.2.transport ∧ again.1 = .ok .short ∧ bus.Holds again.2.transport) ∧
    (∀ board : Board Circuit,
      let ended := board.run bus.reset.run
      let again := ended.2.run bus.reset.run
      ended.1 = .ok .full →
        ended.2.transport.prescale = bus.prescale ∧ again.1 = .ok .short ∧
          again.2.transport.prescale = bus.prescale) := by
  refine ⟨?_, fun board unanswered => reset_after_full_file unanswered,
    fun board => reset_after_full_circuit⟩
  intro σ _ board result
  obtain ⟨answer, rest, came, later, makes, ends⟩ := bus.makes_reset board
  have same : result = came := congrArg Prod.fst makes.run
  rw [same]
  refine ⟨answer, rest, makes.exchanges, ?_⟩
  match answer, ends with
  | .error error, ends => exact ends
  | .ok [], ends => exact ends
  | .ok [_], ends => exact ends
  | .ok [_, _], ends => exact ends
  | .ok (_ :: high :: low :: _), ends =>
      have onPath : bus.OnPath (joinBytes high.toUInt8 low.toUInt8) rest came := ends
      constructor
      · intro right
        rw [OnPath, if_pos ((bus.joinBytes_eq_prescale_iff high low).mpr right)] at onPath
        exact onPath
      · intro wrong
        rw [OnPath, if_neg (mt (bus.joinBytes_eq_prescale_iff high low).mp wrong)] at onPath
        obtain ⟨ended, follows, isResult⟩ := onPath
        exact ⟨follows.isPrefix, follows.full isResult⟩

theorem reset_planned_fresh :
    let bus : Bus := { node := "i2c", config := {}, slaves := .empty }
    let file := RegisterFile.ofRegisters (Register.all.map bus.path)
    let circuit := Circuit.ofNode "i2c"
    let onFile := (Board.ofTransport file).run bus.reset.run
    let onCircuit := (Board.ofTransport circuit).run bus.reset.run
    onFile.1 = .ok .full ∧ bus.Holds onFile.2.transport ∧
      (onFile.2.run bus.reset.run).1 = .ok .short ∧
      onCircuit.1 = .ok .full ∧ onCircuit.2.transport.prescale = bus.prescale ∧
      (onCircuit.2.run bus.reset.run).1 = .ok .short := by
  intro bus file circuit onFile onCircuit
  have full : onFile.1 = .ok .full := by decide +kernel +zetaReduce
  have fullToo : onCircuit.1 = .ok .full := by decide +kernel +zetaReduce
  have unanswered (register : Register) : file.Unanswered (bus.path register) := ⟨rfl, rfl⟩
  -- What remains does not depend on which boards these are, and must not be evaluated on them.
  clear_value file circuit
  obtain ⟨_, files, circuits⟩ := reset_planned bus
  obtain ⟨holds, short, _⟩ := files (Board.ofTransport file) unanswered full
  obtain ⟨prescale, shortToo, _⟩ := circuits (Board.ofTransport circuit) fullToo
  exact ⟨full, holds, short, fullToo, prescale, shortToo⟩

end ClockBoard.Bus
