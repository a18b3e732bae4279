import ClockBoard.Proofs.Bus.Scan

/-!
A core that does not stall or lose the wires does a register write at once. What becomes of the
write is then up to the slave, which may refuse the value but nothing before it.

The main statement has the outcome of the write of one register, with what it makes of the slave.
-/

namespace ClockBoard.Simulation.Circuit

open ClockBoard.Core

theorem conclude_counts (command : Command) (circuit : Circuit) :
    (circuit.conclude command).stalls = circuit.stalls ∧
      (circuit.conclude command).losses = circuit.losses := by
  unfold conclude
  split <;> exact ⟨rfl, rfl⟩

end ClockBoard.Simulation.Circuit

namespace ClockBoard.Bus

open ClockBoard.Core ClockBoard.Link ClockBoard.Simulation ClockBoard.Routine

variable {bus : Bus} {circuit after : Circuit} {address : UInt8} {slave : Slave}

/-- Whether a core that is ready and loses no command has a certain slave at an address. -/
structure Serving (bus : Bus) (address : UInt8) (slave : Slave) (circuit : Circuit) : Prop extends
    bus.Ready circuit where
  wins : circuit.losses = 0
  attached : circuit.slave? address = some slave

/-! ## Bytes -/

theorem Serving.sendByte (serving : bus.Serving address slave circuit)
    (waits : 0 < bus.config.pollAttempts) (on : circuit.enabled = true) (command : Command)
    (oneWay : command.read = false) (byte : UInt8) {moved : Circuit} {turned : Slave}
    (moves : ({ circuit with tx := byte }.winning { command with write := true }).move
      { command with write := true } = moved)
    (keeps : moved.stalls = circuit.stalls ∧ moved.losses = circuit.losses ∧
      moved.status.arbitrationLost = false)
    (attached : moved.slave? address = some turned) :
    let after := moved.conclude { command with write := true }
    (bus.sendByte command byte).run.run Circuit.serve circuit =
        (outcome true command.stop after.status, after) ∧
      bus.Serving address turned after ∧ after.enabled = true := by
  intro after
  have asks : ({ command with write := true } : Command) ≠ {} :=
    fun blank => Bool.noConfusion (congrArg Command.write blank)
  let aimed : Circuit := { circuit with tx := byte }
  have executed : aimed.execute { command with write := true } = _ :=
    Circuit.execute_won asks on serving.wins
  have steady := aimed.execute_steady { command with write := true }
  rw [executed, moves] at steady
  have kept := Circuit.conclude_counts { command with write := true } moved
  have ready : bus.Ready after :=
    { node := steady.node.trans serving.node
      usable := .inl (steady.enabled.trans on)
      progress := steady.progress.trans serving.progress
      calm := kept.1.trans (keeps.1.trans serving.calm) }
  refine ⟨?_, ⟨ready, kept.2.trans (keeps.2.1.trans serving.wins), ?_⟩, steady.enabled.trans on⟩
  · rw [sendByte_run serving.node oneWay, executed, moves, ready.wait waits,
      Circuit.conclude_arbitrationLost, keeps.2.2]
    rfl
  · rw [Circuit.conclude_slave?]
    exact attached

theorem Serving.open (serving : bus.Serving address slave circuit)
    (waits : 0 < bus.config.pollAttempts) (on : circuit.enabled = true)
    (inRange : address ≤ lastAddress) :
    ∃ after, (bus.sendByte { start := true } (addressByte address false)).run.run Circuit.serve
        circuit = (.ok (), after) ∧
      bus.Serving address slave after ∧ after.enabled = true ∧
      after.transfer = some ⟨address, false, false⟩ := by
  obtain ⟨isAddress, isWriting⟩ := addressByte_eq inRange false
  let aimed : Circuit := { circuit with tx := addressByte address false }
  have attached : (aimed.winning { start := true, write := true }).slave? (aimed.tx >>> 1) =
      some slave := by
    rw [isAddress]
    exact serving.attached
  have selected := Circuit.select_attached attached
  rw [Circuit.winning_tx, isAddress, isWriting] at selected
  obtain ⟨ran, again, still⟩ :=
    serving.sendByte waits on { start := true } rfl _ selected ⟨rfl, rfl, rfl⟩ serving.attached
  exact ⟨_, ran, again, still, rfl⟩

theorem Serving.point (serving : bus.Serving address slave circuit)
    (waits : 0 < bus.config.pollAttempts) (on : circuit.enabled = true)
    (opened : circuit.transfer = some ⟨address, false, false⟩) (pointer : UInt8) :
    ∃ after, (bus.sendByte {} pointer).run.run Circuit.serve circuit = (.ok (), after) ∧
      bus.Serving address (slave.pointTo pointer) after ∧ after.enabled = true ∧
      after.transfer = some ⟨address, false, true⟩ := by
  let aimed : Circuit := { circuit with tx := pointer }
  have taken : (aimed.winning { write := true }).send = _ :=
    Circuit.send_accepted opened serving.attached nofun
  have attached := (Table.get?_insert circuit.slaves address address
    (slave.pointTo pointer)).trans (if_pos rfl)
  obtain ⟨ran, again, still⟩ :=
    serving.sendByte waits on {} rfl pointer taken ⟨rfl, rfl, rfl⟩ attached
  exact ⟨_, ran, again, still, rfl⟩

theorem Serving.store (serving : bus.Serving address slave circuit)
    (waits : 0 < bus.config.pollAttempts) (on : circuit.enabled = true)
    (opened : circuit.transfer = some ⟨address, false, true⟩) (value : UInt8) :
    ∃ after, (bus.sendByte { stop := true } value).run.run Circuit.serve circuit =
        (if slave.refusals = 0 then .ok () else .error .noAcknowledge, after) ∧
      bus.Serving address (slave.store value).2 after := by
  let aimed : Circuit := { circuit with tx := value }
  have attached := (Table.get?_insert circuit.slaves address address
    (slave.store value).2).trans (if_pos rfl)
  rw [Slave.store_eq] at attached ⊢
  by_cases takes : slave.refusals = 0
  · have taken : (aimed.winning { stop := true, write := true }).send = _ :=
      Circuit.send_accepted opened serving.attached fun _ => takes
    have refuses : ¬slave.refusals > 0 := by omega
    rw [if_neg refuses] at attached ⊢
    obtain ⟨ran, again, _⟩ :=
      serving.sendByte waits on { stop := true } rfl value taken ⟨rfl, rfl, rfl⟩ attached
    rw [if_pos takes]
    exact ⟨_, ran, again⟩
  · have refuses : 0 < slave.refusals := Nat.pos_of_ne_zero takes
    have refused : (aimed.winning { stop := true, write := true }).send = _ :=
      Circuit.send_refused opened serving.attached refuses
    rw [if_pos refuses] at attached ⊢
    obtain ⟨ran, again, _⟩ :=
      serving.sendByte waits on { stop := true } rfl value refused ⟨rfl, rfl, rfl⟩ attached
    rw [if_neg takes]
    exact ⟨_, ran, again⟩

/-! ## Register writes -/

theorem Serving.reset (serving : bus.Serving address slave circuit) :
    ∃ path after, bus.reset.run.run Circuit.serve circuit = (.ok path, after) ∧
      bus.Serving address slave after ∧ after.enabled = true := by
  obtain ⟨path, after, ran, ready, on, losses, slaves⟩ := serving.toReady.reset
  refine ⟨path, after, ran, ⟨ready, losses.trans serving.wins, ?_⟩, on⟩
  rw [Circuit.slave?, slaves]
  exact serving.attached

theorem Serving.writeArray (serving : bus.Serving address slave circuit)
    (waits : 0 < bus.config.pollAttempts) (inRange : address ≤ lastAddress)
    (register value : UInt8) :
    ∃ after, (bus.writeArray address register [value] true).run.run Circuit.serve circuit =
        (if slave.refusals = 0 then .ok () else .error .noAcknowledge, after) ∧
      bus.Serving address ((slave.pointTo register).store value).2 after := by
  have checked : checkAddress address = .ok () := if_pos inRange
  obtain ⟨path, prepared, reset, ready, on⟩ := serving.reset
  obtain ⟨aimed, opened, again, still, toward⟩ := ready.open waits on inRange
  obtain ⟨pointed, pointer, taking, lasting, within⟩ := again.point waits still toward register
  obtain ⟨after, stored, left⟩ := taking.store waits lasting within value
  refine ⟨after, ?_, left⟩
  rw [Bus.writeArray, writeBlock, checked]
  apply (run_bind_ok reset).trans
  apply (run_bind_ok opened).trans
  apply (run_bind_ok pointer).trans
  by_cases takes : slave.refusals = 0
  · rw [if_pos takes]
    exact run_bind_ok (stored.trans (congrArg (·, after) (if_pos takes)))
  · rw [if_neg takes]
    exact run_bind_error (stored.trans (congrArg (·, after) (if_neg takes)))

end ClockBoard.Bus
