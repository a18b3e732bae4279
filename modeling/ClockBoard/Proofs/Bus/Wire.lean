import ClockBoard.Bus.Command
import ClockBoard.Proofs.Simulation.Runs

/-!
What single accesses to a core may come to, and what a wait for the end of a transfer says about
the core when it is over.
-/

namespace ClockBoard.Bus

open ClockBoard.Core ClockBoard.Link ClockBoard.Simulation

variable {bus : Bus} {before after : Circuit} {toll : Toll}

def Ends {ε α : Type} (good : α → Prop) (bad : Prop) : Except ε α → Prop
  | .ok value => good value
  | .error _ => bad

theorem runs_note_bind {α : Type} (event : Event) (next : Unit → Action α)
    (result : Except Error α) :
    Runs ((liftM (Link.note event) : Action Unit) >>= next).run before result after toll ↔
      Runs (next ()).run before result after toll := by
  rw [Runs, Routine.possible_bind_run]
  constructor
  · rintro (⟨_, _, lifted⟩ | ⟨_, _, _, _, lifted, continued, rfl⟩)
    · rcases (Routine.possible_lift_run _ _).mp lifted with ⟨_, _, same⟩
      cases same
    · rcases (Routine.possible_lift_run _ _).mp lifted with ⟨_, noted, _⟩
      rcases (Routine.possible_ask_done _ _).mp noted with ⟨rfl, rfl⟩
      rwa [zero_add]
  · intro continued
    have noted : Runs (Link.note event) before () before 0 :=
      ⟨(), before, 0, 0, ⟨rfl, rfl⟩, ⟨rfl, rfl, rfl⟩, (add_zero 0).symm⟩
    exact .inr ⟨(), before, 0, toll, (Routine.possible_lift_run _ _).mpr ⟨(), noted, rfl⟩,
      continued, (zero_add toll).symm⟩

theorem runs_remark_bind {α : Type} (level : Event.Level) (message : String)
    (fields : List (String × Event.Value)) (next : Unit → Action α) (result : Except Error α) :
    Runs ((liftM (bus.remark level message fields) : Action Unit) >>= next).run before result
        after toll ↔
      Runs (next ()).run before result after toll :=
  runs_note_bind _ next result

/-! ## Accesses -/

def Knows (bus : Bus) (operations : List Operation) : Prop :=
  ∀ operation ∈ operations, ∃ register, operation.register = bus.path register

theorem Knows.nil : bus.Knows [] := fun _ member => nomatch member

theorem Knows.cons {operation : Operation} {operations : List Operation} {register : Register}
    (named : operation.register = bus.path register) (knows : bus.Knows operations) :
    bus.Knows (operation :: operations) := by
  intro other member
  rcases List.mem_cons.mp member with rfl | member
  · exact ⟨register, named⟩
  · exact knows other member

theorem Knows.write {operations : List Operation} (register : Register) (value : UInt32)
    (knows : bus.Knows operations) :
    bus.Knows (.write (bus.path register) value :: operations) :=
  knows.cons rfl

theorem Knows.read {operations : List Operation} (register : Register)
    (knows : bus.Knows operations) : bus.Knows (.read (bus.path register) :: operations) :=
  knows.cons rfl

private theorem runs_exchange {operations : List Operation}
    {result : Except Error (List UInt32)}
    (runs : Runs (exchange operations).run before result after toll) :
    ∃ answer, Exchanged operations before answer after toll ∧ result = answer.mapError .link := by
  rcases (Routine.possible_map _ _ _).mp runs with ⟨answer, exchanged, rfl⟩
  exact ⟨answer, (Routine.possible_ask_done _ _).mp exchanged, rfl⟩

theorem runs_exchange_error {operations : List Operation} {error : Error}
    (node : before.node = bus.node) (knows : bus.Knows operations)
    (runs : Runs (exchange operations).run before (.error error) after toll) :
    (∃ fault, error = .link fault) ∧ after = before ∧ toll = .failure operations := by
  rcases runs_exchange runs with ⟨answer, exchanged, same⟩
  cases exchanged with
  | failed fault =>
      cases same
      exact ⟨⟨fault, rfl⟩, rfl, rfl⟩
  | unknown operation named strange =>
      rcases knows operation named with ⟨register, isPath⟩
      rw [isPath, path, ← node, Register.ofPath?_path] at strange
      cases strange
  | carried _ _ _ _ => cases same

theorem runs_exchange_ok {operations : List Operation} {values : List UInt32}
    (node : before.node = bus.node)
    (runs : Runs (exchange operations).run before (.ok values) after toll) :
    ∃ actual : Circuit, actual.calm = before ∧ actual.node = bus.node ∧
      values = (Circuit.perform operations actual).1 ∧
      after = (Circuit.perform operations actual).2.calm ∧
      actual.Settles toll (Circuit.perform operations actual).2 := by
  rcases runs_exchange runs with ⟨answer, exchanged, same⟩
  cases exchanged with
  | failed _ => cases same
  | unknown _ _ _ => cases same
  | carried actual _ alike settles =>
      cases same
      subst alike
      exact ⟨actual, rfl, node, rfl, rfl, settles⟩

theorem perform_write {circuit : Circuit} (node : circuit.node = bus.node) (register : Register)
    (value : UInt32) (rest : List Operation) :
    Circuit.perform (.write (bus.path register) value :: rest) circuit =
      Circuit.perform rest (circuit.write value register) := by
  simp [Circuit.perform, Operation.register, path, ← node]

theorem perform_read {circuit : Circuit} (node : circuit.node = bus.node) (register : Register)
    (rest : List Operation) :
    Circuit.perform (.read (bus.path register) :: rest) circuit =
      ((circuit.read register).1 :: (Circuit.perform rest (circuit.read register).2).1,
        (Circuit.perform rest (circuit.read register).2).2) := by
  simp [Circuit.perform, Operation.register, path, ← node]

theorem runs_writeRegister_error {register : Register} {value : UInt32} {error : Error}
    (node : before.node = bus.node)
    (runs : Runs (bus.writeRegister register value).run before (.error error) after toll) :
    (∃ fault, error = .link fault) ∧ after = before ∧
      toll = .failure [.write (bus.path register) value] := by
  simp only [writeRegister, Routine.possible_bind_run, Routine.possible_pure_run] at runs
  rcases runs with ⟨_, same, exchanged⟩ | ⟨_, _, _, _, _, ⟨same, _⟩, _⟩
  · cases same
    exact runs_exchange_error node (Knows.nil.write register value) exchanged
  · cases same

theorem runs_writeRegister_ok {register : Register} {value : UInt32}
    (node : before.node = bus.node)
    (runs : Runs (bus.writeRegister register value).run before (.ok ()) after toll) :
    ∃ actual : Circuit, actual.calm = before ∧ after = (actual.write value register).calm ∧
      actual.Settles toll (actual.write value register) := by
  simp only [writeRegister, Routine.possible_bind_run, Routine.possible_pure_run] at runs
  rcases runs with ⟨_, same, _⟩ | ⟨_, _, _, _, exchanged, ⟨_, rfl, rfl⟩, rfl⟩
  · cases same
  · rcases runs_exchange_ok node exchanged with ⟨actual, rfl, under, _, rfl, settles⟩
    rw [perform_write under] at settles ⊢
    rw [add_zero]
    exact ⟨actual, rfl, rfl, settles⟩

theorem runs_readRegister_error {register : Register} {error : Error}
    (node : before.node = bus.node)
    (runs : Runs (bus.readRegister register).run before (.error error) after toll) :
    (∃ fault, error = .link fault) ∧ after = before ∧
      toll = .failure [.read (bus.path register)] := by
  simp only [readRegister, Routine.possible_bind_run, Routine.possible_liftExcept_run] at runs
  rcases runs with ⟨_, same, exchanged⟩ | ⟨values, _, _, _, exchanged, ⟨same, _⟩, _⟩
  · cases same
    exact runs_exchange_error node (Knows.nil.read register) exchanged
  · rcases runs_exchange_ok node exchanged with ⟨actual, _, under, rfl, _⟩
    rw [perform_read under] at same
    cases same

theorem runs_readRegister_ok {register : Register} {value : UInt32}
    (node : before.node = bus.node)
    (runs : Runs (bus.readRegister register).run before (.ok value) after toll) :
    ∃ actual : Circuit, actual.calm = before ∧ value = (actual.read register).1 ∧
      after = (actual.read register).2.calm ∧ actual.Settles toll (actual.read register).2 := by
  simp only [readRegister, Routine.possible_bind_run, Routine.possible_liftExcept_run] at runs
  rcases runs with ⟨_, same, _⟩ | ⟨values, _, _, _, exchanged, ⟨same, rfl, rfl⟩, rfl⟩
  · cases same
  · rcases runs_exchange_ok node exchanged with ⟨actual, rfl, under, rfl, rfl, settles⟩
    rw [perform_read under] at same settles ⊢
    cases same
    rw [add_zero]
    exact ⟨actual, rfl, rfl, rfl, settles⟩

end ClockBoard.Bus
