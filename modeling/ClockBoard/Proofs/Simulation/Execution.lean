import ClockBoard.Simulation.Circuit

/-!
What a command does to a circuit. A command that asks for nothing does nothing; any other is
refused by a core that is off, lost to another master, or moves a byte.
-/

namespace ClockBoard.Simulation

open ClockBoard.Core ClockBoard.Link

namespace Slave

def shape (slave : Slave) : Bool × Nat :=
  (slave.paged, slave.memory.size)

theorem store_shape (slave : Slave) (value : UInt8) :
    (slave.store value).2.shape = slave.shape := by
  unfold store
  split
  · rfl
  · simp [shape]

end Slave

namespace Circuit

def heeding (circuit : Circuit) (command : Command) : Circuit :=
  { circuit with commands := circuit.commands.push command }

def winning (circuit : Circuit) (command : Command) : Circuit :=
  { circuit.heeding command with status.arbitrationLost := false }

@[simp] theorem winning_tx (circuit : Circuit) (command : Command) :
    (circuit.winning command).tx = circuit.tx := rfl

@[simp] theorem execute_blank (circuit : Circuit) : circuit.execute {} = circuit := rfl

theorem execute_off {circuit : Circuit} {command : Command} (asks : command ≠ {})
    (off : circuit.enabled = false) :
    circuit.execute command = { circuit.heeding command with status.rxNack := true } := by
  have disabled : circuit.control.enable = false := off
  simp [execute, asks, disabled, heeding]

theorem execute_lost {circuit : Circuit} {command : Command} (asks : command ≠ {})
    (on : circuit.enabled = true) (loses : 0 < circuit.losses) :
    circuit.execute command = (circuit.heeding command).lose := by
  have enabled : circuit.control.enable = true := on
  simp [execute, asks, enabled, loses, heeding]

theorem execute_won {circuit : Circuit} {command : Command} (asks : command ≠ {})
    (on : circuit.enabled = true) (wins : circuit.losses = 0) :
    circuit.execute command = ((circuit.winning command).move command).conclude command := by
  have enabled : circuit.control.enable = true := on
  simp [execute, asks, enabled, wins, heeding, winning]

/-- Every command is blank, or finds the core off, or is lost, or moves a byte. -/
theorem execute_cases (circuit : Circuit) (command : Command) :
    (command = {} ∧ circuit.execute command = circuit) ∨
    (command ≠ {} ∧ circuit.enabled = false ∧
      circuit.execute command = { circuit.heeding command with status.rxNack := true }) ∨
    (command ≠ {} ∧ circuit.enabled = true ∧ 0 < circuit.losses ∧
      circuit.execute command = (circuit.heeding command).lose) ∨
    (command ≠ {} ∧ circuit.enabled = true ∧ circuit.losses = 0 ∧
      circuit.execute command =
        ((circuit.winning command).move command).conclude command) := by
  by_cases blank : command = {}
  · subst blank
    exact .inl ⟨rfl, rfl⟩
  · cases on : circuit.enabled with
    | false => exact .inr (.inl ⟨blank, rfl, execute_off blank on⟩)
    | true =>
        rcases Nat.eq_zero_or_pos circuit.losses with wins | loses
        · exact .inr (.inr (.inr ⟨blank, rfl, wins, execute_won blank on wins⟩))
        · exact .inr (.inr (.inl ⟨blank, rfl, loses, execute_lost blank on loses⟩))

theorem execute_induction (Kept : Circuit → Prop) (circuit : Circuit) (command : Command)
    (blank : Kept circuit)
    (off : Kept { circuit.heeding command with status.rxNack := true })
    (lost : Kept (circuit.heeding command).lose)
    (won : Kept (((circuit.winning command).move command).conclude command)) :
    Kept (circuit.execute command) := by
  rcases execute_cases circuit command with
    ⟨_, equal⟩ | ⟨_, _, equal⟩ | ⟨_, _, _, equal⟩ | ⟨_, _, _, equal⟩
  · rwa [equal]
  · rwa [equal]
  · rwa [equal]
  · rwa [equal]

/-! ## Conclusions -/

@[simp] theorem conclude_slave? (command : Command) (circuit : Circuit) (address : UInt8) :
    (circuit.conclude command).slave? address = circuit.slave? address := by
  unfold conclude
  split <;> rfl

theorem conclude_transfer {command : Command} (goesOn : command.stop = false)
    (circuit : Circuit) : (circuit.conclude command).transfer = circuit.transfer := by
  simp [conclude, goesOn]

@[simp] theorem conclude_rx (command : Command) (circuit : Circuit) :
    (circuit.conclude command).rx = circuit.rx := by
  unfold conclude
  split <;> rfl

@[simp] theorem conclude_rxNack (command : Command) (circuit : Circuit) :
    (circuit.conclude command).status.rxNack = circuit.status.rxNack := by
  unfold conclude
  split <;> rfl

@[simp] theorem conclude_arbitrationLost (command : Command) (circuit : Circuit) :
    (circuit.conclude command).status.arbitrationLost = circuit.status.arbitrationLost := by
  unfold conclude
  split <;> rfl

theorem conclude_idle {command : Command} (stops : command.stop = true) (circuit : Circuit) :
    (circuit.conclude command).status.busy = false := by
  simp [conclude, stops]

/-! ## What commands leave alone -/

/-- Whether a circuit is programmed as it was before. The bit for a transfer in progress is part of
this, for commands complete at once. -/
structure Steady (before after : Circuit) : Prop where
  node : after.node = before.node
  control : after.control = before.control
  prescale : after.prescale = before.prescale
  progress : after.status.transferInProgress = before.status.transferInProgress

theorem Steady.refl (circuit : Circuit) : circuit.Steady circuit :=
  ⟨rfl, rfl, rfl, rfl⟩

theorem Steady.trans {before middle after : Circuit} (one : before.Steady middle)
    (two : middle.Steady after) : before.Steady after where
  node := two.node.trans one.node
  control := two.control.trans one.control
  prescale := two.prescale.trans one.prescale
  progress := two.progress.trans one.progress

theorem Steady.enabled {before after : Circuit} (steady : before.Steady after) :
    after.enabled = before.enabled :=
  congrArg Control.enable steady.control

theorem move_steady (command : Command) (circuit : Circuit) :
    circuit.Steady (circuit.move command) := by
  unfold move select send receive
  split
  · split
    · exact ⟨rfl, rfl, rfl, rfl⟩
    · split <;> exact ⟨rfl, rfl, rfl, rfl⟩
  · split
    · split <;> exact ⟨rfl, rfl, rfl, rfl⟩
    · exact Steady.refl circuit

theorem conclude_steady (command : Command) (circuit : Circuit) :
    circuit.Steady (circuit.conclude command) := by
  unfold conclude
  split <;> exact ⟨rfl, rfl, rfl, rfl⟩

theorem execute_steady (circuit : Circuit) (command : Command) :
    circuit.Steady (circuit.execute command) := by
  apply execute_induction circuit.Steady
  · exact Steady.refl circuit
  · exact ⟨rfl, rfl, rfl, rfl⟩
  · exact ⟨rfl, rfl, rfl, rfl⟩
  · have won : circuit.Steady (circuit.winning command) := ⟨rfl, rfl, rfl, rfl⟩
    exact (won.trans (move_steady command _)).trans (conclude_steady command _)

/-! ## What accesses leave alone -/

def shape? (circuit : Circuit) (address : UInt8) : Option (Bool × Nat) :=
  (circuit.slave? address).map Slave.shape

/-- Whether a circuit is built as it was before. The bit for a transfer in progress is part of
this, for commands complete at once. -/
structure Lasting (before after : Circuit) : Prop where
  node : after.node = before.node
  progress : after.status.transferInProgress = before.status.transferInProgress
  shape : ∀ address, after.shape? address = before.shape? address

theorem Lasting.refl (circuit : Circuit) : circuit.Lasting circuit :=
  ⟨rfl, rfl, fun _ => rfl⟩

theorem Lasting.trans {before middle after : Circuit} (one : before.Lasting middle)
    (two : middle.Lasting after) : before.Lasting after where
  node := two.node.trans one.node
  progress := two.progress.trans one.progress
  shape address := (two.shape address).trans (one.shape address)

theorem shape?_visit {β : Type} (circuit : Circuit) (address other : UInt8)
    (action : Slave → β × Slave) (same : ∀ slave, (action slave).2.shape = slave.shape) :
    { circuit with slaves := (circuit.slaves.visit address action).2 }.shape? other =
      circuit.shape? other := by
  rw [Table.visit_eq]
  cases found : circuit.slaves.get? address with
  | none => rfl
  | some slave =>
      simp only [shape?, slave?, Table.get?_insert]
      split
      · rename_i equal
        rw [← equal, found]
        exact congrArg some (same slave)
      · rfl

theorem move_shape? (command : Command) (circuit : Circuit) (address : UInt8) :
    (circuit.move command).shape? address = circuit.shape? address := by
  unfold move
  split
  · split
    · rfl
    · unfold send
      split
      · rename_i aimed pointed _
        refine shape?_visit circuit aimed address _ ?_
        intro slave
        cases pointed
        · rfl
        · exact Slave.store_shape slave circuit.tx
      · rfl
  · split
    · unfold receive
      split
      · exact shape?_visit circuit _ address Slave.load fun _ => rfl
      · rfl
    · rfl

theorem conclude_shape? (command : Command) (circuit : Circuit) (address : UInt8) :
    (circuit.conclude command).shape? address = circuit.shape? address :=
  congrArg (Option.map Slave.shape) (conclude_slave? command circuit address)

theorem execute_lasting (circuit : Circuit) (command : Command) :
    circuit.Lasting (circuit.execute command) := by
  refine ⟨(execute_steady circuit command).node, (execute_steady circuit command).progress, ?_⟩
  intro address
  refine execute_induction
    (fun after => after.shape? address = circuit.shape? address) circuit command ?_ ?_ ?_ ?_
  · rfl
  · rfl
  · rfl
  · rw [conclude_shape?, move_shape?]
    rfl

theorem write_lasting (circuit : Circuit) (value : UInt32) (register : Register) :
    circuit.Lasting (circuit.write value register) := by
  cases register with
  | command => exact execute_lasting circuit _
  | _ => exact ⟨rfl, rfl, fun _ => rfl⟩

theorem readStatus_lasting (circuit : Circuit) : circuit.Lasting circuit.readStatus.2 := by
  unfold readStatus
  split <;> exact ⟨rfl, rfl, fun _ => rfl⟩

theorem read_lasting (circuit : Circuit) (register : Register) :
    circuit.Lasting (circuit.read register).2 := by
  cases register with
  | command => exact readStatus_lasting circuit
  | _ => exact Lasting.refl circuit

theorem read_programming (circuit : Circuit) (register : Register) :
    (circuit.read register).2.control = circuit.control ∧
      (circuit.read register).2.prescale = circuit.prescale := by
  cases register with
  | command =>
      change circuit.readStatus.2.control = _ ∧ circuit.readStatus.2.prescale = _
      unfold readStatus
      split <;> exact ⟨rfl, rfl⟩
  | _ => exact ⟨rfl, rfl⟩

theorem perform_keeps (Kept : Circuit → Prop)
    (write : ∀ circuit value register, Kept circuit → Kept (circuit.write value register))
    (read : ∀ circuit register, Kept circuit → Kept (circuit.read register).2)
    (operations : List Operation) {circuit : Circuit} (kept : Kept circuit) :
    Kept (perform operations circuit).2 := by
  induction operations generalizing circuit with
  | nil => exact kept
  | cons operation rest induction =>
      unfold perform
      split
      · exact induction kept
      · exact induction (write circuit _ _ kept)
      · exact induction (read circuit _ kept)

theorem perform_lasting (operations : List Operation) (circuit : Circuit) :
    circuit.Lasting (perform operations circuit).2 := by
  apply perform_keeps circuit.Lasting
  · intro later value register kept
    exact kept.trans (write_lasting later value register)
  · intro later register kept
    exact kept.trans (read_lasting later register)
  · exact Lasting.refl circuit

end Circuit

end ClockBoard.Simulation
