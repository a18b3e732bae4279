import ClockBoard.Proofs.Bus.Reset
import ClockBoard.Proofs.Routine.Coupled

/-!
What runs make of a circuit that is reached directly, where no batch ever fails. Each access to its
registers, and so a reset, comes to one end only.
-/

namespace ClockBoard.Simulation.Circuit

open ClockBoard.Link

def serve : (request : Link.interface.Request) → Circuit → Link.interface.Answer request × Circuit
  | .exchange operations, circuit =>
      let carried := circuit.carry { serial := 0, operations }
      (carried.1.map Response.values, carried.2)
  | .note _, circuit => ((), circuit)

theorem board_serve (request : Link.interface.Request) (board : Board Circuit)
    (free : board.access = .free) :
    (board.serve request).1 = (serve request board.transport).1 ∧
      (board.serve request).2.transport = (serve request board.transport).2 ∧
      (board.serve request).2.access = .free := by
  rcases board with ⟨circuit, access, staged, events⟩
  cases free
  cases request with
  | note event => exact ⟨rfl, rfl, rfl⟩
  | exchange operations =>
      simp only [Board.serve, Board.stage, Board.dispatchShared, Board.dispatchHeld, serve,
        dispatch, carry, Batch.firstUnknown?]
      split
      · simp [Except.map]
      · simp [Except.map, Batch.respond, Response.valuesFor]

theorem board_run {α : Type} (routine : Routine Link.interface α) (board : Board Circuit)
    (free : board.access = .free) :
    (board.run routine).1 = (routine.run serve board.transport).1 ∧
      (board.run routine).2.transport = (routine.run serve board.transport).2 := by
  induction routine generalizing board with
  | done value => exact ⟨rfl, rfl⟩
  | ask request next induction =>
      rcases board_serve request board free with ⟨answer, transport, stays⟩
      have rest := induction (board.serve request).1 (board.serve request).2 stays
      rw [answer, transport] at rest
      simp only [Board.run, Routine.run, answer] at rest ⊢
      exact rest

/-- On boards that cannot be reached a run comes to one end only, and to nothing else. -/
theorem board_run_cut {α : Type} (routine : Routine Link.interface α) {one two : Board Circuit}
    (cut : one.access ≠ .free) (same : one.access = two.access) :
    (one.run routine).1 = (two.run routine).1 ∧
      (one.run routine).2.transport = one.transport ∧
      (two.run routine).2.transport = two.transport := by
  induction routine generalizing one two with
  | done value => exact ⟨rfl, rfl, rfl⟩
  | ask request next induction =>
      rcases one with ⟨circuit, access, staged, events⟩
      rcases two with ⟨other, _, stagedToo, eventsToo⟩
      cases same
      simp only [Board.run, Routine.run] at induction ⊢
      cases request with
      | note event => exact induction () cut rfl
      | exchange operations =>
          cases access with
          | free => exact absurd rfl cut
          | poisoned => exact induction _ cut rfl
          | gone => exact induction _ cut rfl

end ClockBoard.Simulation.Circuit

namespace ClockBoard.Bus

open ClockBoard.Core ClockBoard.Link ClockBoard.Simulation ClockBoard.Routine

variable {bus : Bus} {circuit : Circuit} {α : Type}

theorem serve_exchange {operations : List Operation} (node : circuit.node = bus.node)
    (knows : bus.Knows operations) :
    Circuit.serve (.exchange operations) circuit =
      (.ok (Circuit.perform operations circuit).1, (Circuit.perform operations circuit).2) := by
  have known : Batch.firstUnknown? { serial := 0, operations }
      (fun register => (Register.ofPath? circuit.node register).isSome) = none := by
    apply List.find?_eq_none.mpr
    intro path member
    rcases List.mem_map.mp member with ⟨operation, named, rfl⟩
    rcases knows operation named with ⟨register, isPath⟩
    simp [isPath, path, ← node]
  simp [Circuit.serve, Circuit.carry, known, Except.map, Batch.respond]

theorem exchange_run {operations : List Operation} (node : circuit.node = bus.node)
    (knows : bus.Knows operations) :
    (exchange operations).run.run Circuit.serve circuit =
      (.ok (Circuit.perform operations circuit).1, (Circuit.perform operations circuit).2) := by
  have served := serve_exchange node knows
  change ((Circuit.serve (.exchange operations) circuit).1.mapError Error.link,
    (Circuit.serve (.exchange operations) circuit).2) = _
  rw [served]
  rfl

theorem readRegister_run (node : circuit.node = bus.node) (register : Register) :
    (bus.readRegister register).run.run Circuit.serve circuit =
      (.ok (circuit.read register).1, (circuit.read register).2) := by
  rw [readRegister, run_bind_ok (exchange_run node (Knows.nil.read register)), perform_read node]
  rfl

theorem writeRegister_run (node : circuit.node = bus.node) (register : Register)
    (value : UInt32) :
    (bus.writeRegister register value).run.run Circuit.serve circuit =
      (.ok (), circuit.write value register) := by
  rw [writeRegister, run_bind_ok (exchange_run node (Knows.nil.write register value)),
    perform_write node]
  rfl

theorem settled_run (value : α) :
    (liftM (.ok value : Except Error α) : Action α).run.run Circuit.serve circuit =
      (.ok value, circuit) :=
  rfl

theorem remark_run_bind (level : Event.Level) (message : String)
    (fields : List (String × Event.Value)) (next : Unit → Action α) :
    ((liftM (bus.remark level message fields) : Action Unit) >>= next).run.run Circuit.serve
        circuit =
      (next ()).run.run Circuit.serve circuit :=
  rfl

theorem program_run (node : circuit.node = bus.node) (steps : List (Register × UInt32)) :
    (steps.forM fun step => bus.writeRegister step.1 step.2).run.run Circuit.serve circuit =
      (.ok (), circuit.program steps) := by
  induction steps generalizing circuit with
  | nil => rfl
  | cons step rest induction =>
      refine (run_bind_ok (writeRegister_run node step.1 step.2)).trans ?_
      exact induction ((Circuit.write_lasting _ _ _).node.trans node)

theorem reset_run (node : circuit.node = bus.node) :
    bus.reset.run.run Circuit.serve circuit =
      if circuit.prescale = bus.prescale then (.ok .short, { circuit with tx := 0 })
      else (.ok .full, circuit.program bus.programming) := by
  have lookUp : bus.Knows [.read (bus.path .control), .read (bus.path .prescaleHigh),
      .read (bus.path .prescaleLow)] := ((Knows.nil.read _).read _).read _
  have clear : bus.Knows [.write (bus.path .data) 0, .write (bus.path .command) 0] :=
    (Knows.nil.write _ _).write _ _
  have isPrescale : joinBytes circuit.prescaleHigh circuit.prescaleLow = circuit.prescale := rfl
  rw [reset, run_bind_ok (exchange_run node lookUp), perform_lookUp node]
  refine (run_bind_ok (settled_run (Control.layout.toWord circuit.control))).trans ?_
  refine (run_bind_ok (settled_run circuit.prescaleHigh.toUInt32)).trans ?_
  refine (run_bind_ok (settled_run circuit.prescaleLow.toUInt32)).trans ?_
  simp only [UInt8.toUInt8_toUInt32, isPrescale]
  split
  · rw [run_bind_ok (exchange_run node clear), perform_clear node, remark_run_bind]
    rfl
  · rw [remark_run_bind, run_bind_ok (program_run node bus.programming)]
    rfl

end ClockBoard.Bus
