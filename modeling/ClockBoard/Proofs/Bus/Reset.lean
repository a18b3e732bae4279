import ClockBoard.Bus.Reset
import ClockBoard.Proofs.Bus.Wire

/-!
What a reset may come to. A core that is programmed register by register can be left at any point
of the sequence, and the prescale, by which a reset tells whether there is anything to program, is
right before the core is switched on again.

The main statement says what each end of a reset makes of the core.
-/

namespace ClockBoard.Simulation.Circuit

open ClockBoard.Core

def program (circuit : Circuit) (steps : List (Register × UInt32)) : Circuit :=
  steps.foldl (fun circuit step => circuit.write step.2 step.1) circuit

/-- Whether a register write issues no command. -/
def Plain (step : Register × UInt32) : Prop :=
  step.1 = .command → step.2 = 0

theorem write_blank (circuit : Circuit) : circuit.write 0 .command = circuit := by
  have blank : Command.layout.ofWord 0 = {} := by decide
  rw [write, blank, execute_blank]

theorem calm_write {circuit : Circuit} {step : Register × UInt32} (plain : Plain step) :
    (circuit.write step.2 step.1).calm = circuit.calm.write step.2 step.1 := by
  rcases step with ⟨register, value⟩
  cases register with
  | command =>
      have zero : value = 0 := plain rfl
      subst zero
      change (circuit.write 0 .command).calm = circuit.calm.write 0 .command
      rw [write_blank, write_blank]
  | _ => rfl

theorem program_slave? {steps : List (Register × UInt32)}
    (plain : ∀ step ∈ steps, Plain step) (circuit : Circuit) (address : UInt8) :
    (circuit.program steps).slave? address = circuit.slave? address := by
  induction steps generalizing circuit with
  | nil => rfl
  | cons step rest induction =>
      have others : ∀ step ∈ rest, Plain step := fun other member =>
        plain other (List.mem_cons_of_mem _ member)
      refine (induction others _).trans ?_
      rcases step with ⟨register, value⟩
      cases register with
      | command =>
          have zero : value = 0 := plain (.command, value) List.mem_cons_self rfl
          subst zero
          exact congrArg (fun circuit => circuit.slave? address) (write_blank circuit)
      | _ => rfl

end ClockBoard.Simulation.Circuit

namespace ClockBoard.Bus

open ClockBoard.Core ClockBoard.Link ClockBoard.Simulation

variable {bus : Bus} {before after : Circuit} {toll : Toll}

/-! ## Programming -/

theorem runs_program {steps : List (Register × UInt32)} {result : Except Error Unit}
    (node : before.node = bus.node) (plain : ∀ step ∈ steps, Circuit.Plain step)
    (runs : Runs (steps.forM fun step => bus.writeRegister step.1 step.2).run before result after
      toll) :
    Ends
      (fun _ => toll.failed = [] ∧ after = before.program steps)
      (∃ done step rest, steps = done ++ step :: rest ∧
        toll.failed = [[.write (bus.path step.1) step.2]] ∧ after = before.program done)
      result := by
  induction steps generalizing before toll with
  | nil =>
      rcases runs with ⟨rfl, rfl, rfl⟩
      exact ⟨rfl, rfl⟩
  | cons step rest induction =>
      rcases (Routine.possible_bind_run _ _ _).mp runs with
        ⟨error, rfl, written⟩ | ⟨_, middle, first, others, written, continued, rfl⟩
      · rcases runs_writeRegister_error node written with ⟨_, rfl, rfl⟩
        exact ⟨[], step, rest, rfl, rfl, rfl⟩
      · rcases runs_writeRegister_ok node written with ⟨actual, rfl, rfl, settles⟩
        have stays : (actual.write step.2 step.1).calm = actual.calm.program [step] :=
          Circuit.calm_write (plain step List.mem_cons_self)
        have reached : (actual.write step.2 step.1).calm.node = bus.node :=
          (Circuit.write_lasting _ _ _).node.trans node
        have ends := induction reached
          (fun other member => plain other (List.mem_cons_of_mem _ member)) continued
        rw [stays] at ends
        cases result with
        | ok _ =>
            rcases ends with ⟨failed, same⟩
            refine ⟨?_, same⟩
            rw [Toll.failed_add, settles.failed, failed]
            rfl
        | error error =>
            rcases ends with ⟨done, next, left, rfl, failed, same⟩
            refine ⟨step :: done, next, left, rfl, ?_, same⟩
            rw [Toll.failed_add, settles.failed, failed]
            rfl

theorem programming_plain (bus : Bus) : ∀ step ∈ bus.programming, Circuit.Plain step := by
  intro step member
  simp only [programming, List.mem_cons, List.not_mem_nil, or_false] at member
  rcases member with rfl | rfl | rfl | rfl | rfl | rfl
  all_goals first | exact fun _ => rfl | nofun

theorem program_programming (bus : Bus) (circuit : Circuit) :
    circuit.program bus.programming =
      { circuit with
        control := { enable := true }
        prescaleHigh := highByte bus.prescale
        prescaleLow := lowByte bus.prescale
        tx := 0 } := by
  have off : Control.layout.ofWord (Control.layout.toWord {}) = {} := by decide
  have on : Control.layout.ofWord (Control.layout.toWord { enable := true }) =
      { enable := true } := by decide
  have blank : Command.layout.ofWord 0 = {} := by decide
  simp [Circuit.program, programming, Circuit.write, off, on, blank]

/-! ## Resets -/

theorem perform_lookUp {circuit : Circuit} (node : circuit.node = bus.node) :
    Circuit.perform
        [.read (bus.path .control), .read (bus.path .prescaleHigh), .read (bus.path .prescaleLow)]
        circuit =
      ([Control.layout.toWord circuit.control, circuit.prescaleHigh.toUInt32,
        circuit.prescaleLow.toUInt32], circuit) := by
  have after : (circuit.read .control).2.node = bus.node := node
  have last : ((circuit.read .control).2.read .prescaleHigh).2.node = bus.node := node
  rw [perform_read node, perform_read after, perform_read last]
  rfl

theorem perform_clear {circuit : Circuit} (node : circuit.node = bus.node) :
    Circuit.perform [.write (bus.path .data) 0, .write (bus.path .command) 0] circuit =
      ([], { circuit with tx := 0 }) := by
  have after : (circuit.write 0 .data).node = bus.node := node
  rw [perform_write node, perform_write after, Circuit.write_blank]
  rfl

private theorem runs_short {result : Except Error ResetPath} (node : before.node = bus.node)
    (runs : Runs
      (ExceptT.run do
        let _ ← exchange [.write (bus.path .data) 0, .write (bus.path .command) 0]
        liftM (bus.remark .trace "Short I2C reset" [])
        return .short)
      before result after toll) :
    Ends
      (fun path => toll.failed = [] ∧ path = .short ∧ after = { before with tx := 0 })
      (toll.failed = [[.write (bus.path .data) 0, .write (bus.path .command) 0]] ∧ after = before)
      result := by
  rcases (Routine.possible_bind_run _ _ _).mp runs with
    ⟨error, rfl, cleared⟩ | ⟨_, _, first, rest, cleared, noted, rfl⟩
  · have knows : bus.Knows [.write (bus.path .data) 0, .write (bus.path .command) 0] :=
      (Knows.nil.write _ _).write _ _
    rcases runs_exchange_error node knows cleared with ⟨_, rfl, rfl⟩
    exact ⟨rfl, rfl⟩
  · rcases runs_exchange_ok node cleared with ⟨actual, rfl, under, _, rfl, settles⟩
    rw [perform_clear under] at noted settles
    rcases (runs_remark_bind _ _ _ _ _).mp noted with ⟨rfl, rfl, rfl⟩
    rw [add_zero]
    exact ⟨settles.failed, rfl, rfl⟩

private theorem runs_full {result : Except Error ResetPath} (node : before.node = bus.node)
    (runs : Runs
      (ExceptT.run do
        bus.programming.forM fun step => bus.writeRegister step.1 step.2
        return .full)
      before result after toll) :
    Ends
      (fun path => toll.failed = [] ∧ path = .full ∧ after = before.program bus.programming)
      (∃ done step rest, bus.programming = done ++ step :: rest ∧
        toll.failed = [[.write (bus.path step.1) step.2]] ∧ after = before.program done)
      result := by
  rcases (Routine.possible_bind_run _ _ _).mp runs with
    ⟨error, rfl, programmed⟩ | ⟨_, _, first, rest, programmed, ⟨rfl, rfl, rfl⟩, rfl⟩
  · exact runs_program node bus.programming_plain programmed
  · rcases runs_program node bus.programming_plain programmed with ⟨failed, same⟩
    rw [add_zero]
    exact ⟨failed, rfl, same⟩

/-- A reset changes nothing but the data register of a core whose prescale is right, and programs
any other. Wherever a batch fails it stops. -/
theorem runs_reset {result : Except Error ResetPath} (node : before.node = bus.node)
    (runs : Runs bus.reset.run before result after toll) :
    Ends
      (fun path => toll.failed = [] ∧
        (path = .short ∧ before.prescale = bus.prescale ∧ after = { before with tx := 0 } ∨
          path = .full ∧ before.prescale ≠ bus.prescale ∧
            after = before.program bus.programming))
      ((∃ operations, toll.failed = [operations] ∧ operations.length ≠ 1 ∧ after = before) ∨
        before.prescale ≠ bus.prescale ∧ ∃ done step rest,
          bus.programming = done ++ step :: rest ∧
          toll.failed = [[.write (bus.path step.1) step.2]] ∧ after = before.program done)
      result := by
  rcases (Routine.possible_bind_run _ _ _).mp runs with
    ⟨error, rfl, asked⟩ | ⟨values, _, first, rest, asked, continued, rfl⟩
  · have knows : bus.Knows [.read (bus.path .control), .read (bus.path .prescaleHigh),
        .read (bus.path .prescaleLow)] := ((Knows.nil.read _).read _).read _
    rcases runs_exchange_error node knows asked with ⟨_, rfl, rfl⟩
    exact .inl ⟨_, rfl, by simp, rfl⟩
  · rcases runs_exchange_ok node asked with ⟨actual, rfl, under, rfl, rfl, settles⟩
    rw [perform_lookUp under] at continued settles
    have decided := (Routine.possible_liftOk_bind_run _ _ _).mp
      ((Routine.possible_liftOk_bind_run _ _ _).mp
        ((Routine.possible_liftOk_bind_run _ _ _).mp continued))
    have isPrescale : joinBytes actual.prescaleHigh actual.prescaleLow = actual.calm.prescale := rfl
    simp only [UInt8.toUInt8_toUInt32, isPrescale] at decided
    rw [Toll.failed_add, settles.failed, List.nil_append]
    by_cases right : actual.calm.prescale = bus.prescale
    · rw [if_pos right] at decided
      have ends := runs_short node decided
      cases result with
      | ok path =>
          rcases ends with ⟨failed, short, same⟩
          exact ⟨failed, .inl ⟨short, right, same⟩⟩
      | error error =>
          rcases ends with ⟨failed, same⟩
          exact .inl ⟨_, failed, by simp, same⟩
    · rw [if_neg right] at decided
      have ends := runs_full node ((runs_remark_bind _ _ _ _ _).mp decided)
      cases result with
      | ok path =>
          rcases ends with ⟨failed, full, same⟩
          exact ⟨failed, .inr ⟨full, right, same⟩⟩
      | error error => exact .inr ⟨right, ends⟩

/-- Whether a core works after the next reset, unless that fails: it is switched on, or its prescale
makes the reset program it. -/
def Usable (bus : Bus) (circuit : Circuit) : Prop :=
  circuit.enabled = true ∨ circuit.prescale ≠ bus.prescale

theorem runs_reset_slave? {result : Except Error ResetPath} (node : before.node = bus.node)
    (runs : Runs bus.reset.run before result after toll) (address : UInt8) :
    after.slave? address = before.slave? address := by
  have ends := runs_reset node runs
  cases result with
  | ok path =>
      rcases ends with ⟨_, ⟨_, _, rfl⟩ | ⟨_, _, rfl⟩⟩
      · rfl
      · exact Circuit.program_slave? bus.programming_plain _ _
  | error error =>
      rcases ends with ⟨_, _, _, rfl⟩ | ⟨_, done, step, rest, equal, _, rfl⟩
      · rfl
      · refine Circuit.program_slave? ?_ _ _
        intro other member
        apply bus.programming_plain other
        rw [equal]
        exact List.mem_append_left _ member

theorem runs_reset_ok {path : ResetPath} (node : before.node = bus.node)
    (runs : Runs bus.reset.run before (.ok path) after toll) :
    toll.failed = [] ∧ after.prescale = bus.prescale ∧
      (after.enabled = true ↔ bus.Usable before) ∧ (path = .full → after.enabled = true) := by
  rcases runs_reset node runs with ⟨failed, ⟨rfl, right, rfl⟩ | ⟨rfl, wrong, rfl⟩⟩
  · refine ⟨failed, right, ?_, nofun⟩
    constructor
    · exact .inl
    · rintro (on | wrong)
      · exact on
      · exact absurd right wrong
  · rw [program_programming]
    have prescale : joinBytes (highByte bus.prescale) (lowByte bus.prescale) = bus.prescale :=
      joinBytes_highByte_lowByte _
    exact ⟨failed, prescale, ⟨fun _ => .inr wrong, fun _ => rfl⟩, fun _ => rfl⟩

theorem runs_reset_error {error : Error} (node : before.node = bus.node)
    (runs : Runs bus.reset.run before (.error error) after toll) : toll.failed ≠ [] := by
  rcases runs_reset node runs with ⟨_, failed, _⟩ | ⟨_, _, _, _, _, failed, _⟩
  · rw [failed]
    exact List.cons_ne_nil _ _
  · rw [failed]
    exact List.cons_ne_nil _ _

/-! ## Cut programming -/

theorem joinBytes_eq_iff (high low : UInt8) (word : UInt16) :
    joinBytes high low = word ↔ high = highByte word ∧ low = lowByte word := by
  constructor
  · rintro rfl
    exact ⟨(highByte_joinBytes high low).symm, (lowByte_joinBytes high low).symm⟩
  · rintro ⟨rfl, rfl⟩
    exact joinBytes_highByte_lowByte word

/-- Programming that is cut leaves the core switched off, and usable only as long as the prescale is
not right yet. -/
theorem usable_program_iff {circuit : Circuit} {done rest : List (Register × UInt32)}
    {step : Register × UInt32} (equal : bus.programming = done ++ step :: rest)
    (wrong : circuit.prescale ≠ bus.prescale) :
    bus.Usable (circuit.program done) ↔
      done.length ≤ 1 ∨ done.length = 2 ∧ circuit.prescaleLow ≠ lowByte bus.prescale := by
  have few : done.length < 6 := by
    have length := congrArg List.length equal
    simp only [programming, List.length_append, List.length_cons, List.length_nil] at length
    omega
  have isTake : done = bus.programming.take done.length := by rw [equal, List.take_left]
  have off : Control.layout.ofWord (Control.layout.toWord {}) = {} := by decide
  have blank : Command.layout.ofWord 0 = {} := by decide
  have differs : joinBytes circuit.prescaleHigh circuit.prescaleLow ≠ bus.prescale := wrong
  generalize done.length = count at isTake few ⊢
  subst isTake
  rcases count with _ | _ | _ | _ | _ | _ | count
  · simp [Usable, Circuit.program, wrong]
  · simp [Usable, Circuit.program, programming, Circuit.write, off, Circuit.enabled,
      Circuit.prescale, differs]
  · simp [Usable, Circuit.program, programming, Circuit.write, off, Circuit.enabled,
      Circuit.prescale, joinBytes_eq_iff]
  · simp [Usable, Circuit.program, programming, Circuit.write, off, Circuit.enabled,
      Circuit.prescale]
  · simp [Usable, Circuit.program, programming, Circuit.write, off, Circuit.enabled,
      Circuit.prescale]
  · simp [Usable, Circuit.program, programming, Circuit.write, off, blank, Circuit.enabled,
      Circuit.prescale]
  · omega

end ClockBoard.Bus
