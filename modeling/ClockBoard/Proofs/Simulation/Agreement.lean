import ClockBoard.Proofs.Simulation.Execution

/-!
Circuits that agree in all that outlives a transaction, and differ at most in what an earlier one
has left on the wires and in the registers for data and status.

The main statement says that a command makes them agree in what it leaves there as well, as far as
anyone looks at it.
-/

namespace ClockBoard.Simulation.Circuit

open ClockBoard.Core

/-- Whether circuits agree in their programming, their slaves, and what is still to go wrong. -/
structure Agree (one two : Circuit) : Prop where
  node : one.node = two.node
  control : one.control = two.control
  prescale : one.prescale = two.prescale
  slaves : ∀ address, one.slave? address = two.slave? address
  stalls : one.stalls = two.stalls
  losses : one.losses = two.losses

variable {one two : Circuit}

theorem Agree.enabled (agree : one.Agree two) : one.enabled = two.enabled :=
  congrArg Control.enable agree.control

theorem Agree.contains (agree : one.Agree two) (address : UInt8) :
    one.slaves.contains address = two.slaves.contains address :=
  congrArg Option.isSome (agree.slaves address)

structure Joined (one two : Circuit) : Prop extends one.Agree two where
  transfer : one.transfer = two.transfer

structure Moved (one two : Circuit) : Prop extends one.Joined two where
  rxNack : one.status.rxNack = two.status.rxNack
  kept : one.status.arbitrationLost = false
  kept' : two.status.arbitrationLost = false

theorem select_moved (agree : one.Agree two) (tx : one.tx = two.tx)
    (kept : one.status.arbitrationLost = false) (kept' : two.status.arbitrationLost = false) :
    one.select.Moved two.select := by
  refine ⟨⟨⟨agree.node, agree.control, agree.prescale, agree.slaves, agree.stalls, agree.losses⟩,
    ?_⟩, ?_, kept, kept'⟩
  · simp only [select, tx, agree.contains]
  · simp only [select, tx, agree.contains]

theorem send_moved (joined : one.Joined two) (tx : one.tx = two.tx)
    (kept : one.status.arbitrationLost = false) (kept' : two.status.arbitrationLost = false) :
    one.send.Moved two.send := by
  rcases joined with ⟨⟨node, control, prescale, slaves, stalls, losses⟩, transfer⟩
  unfold send
  rw [← transfer, ← tx]
  split
  · rename_i address pointed _
    have visited := Table.visit_congr slaves address fun slave =>
      if pointed then slave.store one.tx else (true, slave.pointTo one.tx)
    refine ⟨⟨⟨node, control, prescale, visited.2, stalls, losses⟩, ?_⟩, ?_, kept, kept'⟩
    · simp only [visited.1]
    · simp only [visited.1]
  · exact ⟨⟨⟨node, control, prescale, slaves, stalls, losses⟩, rfl⟩, rfl, kept, kept'⟩

theorem receive_moved (refused : Bool) (joined : one.Joined two)
    (kept : one.status.arbitrationLost = false) (kept' : two.status.arbitrationLost = false) :
    (one.receive refused).Moved (two.receive refused) ∧
      (one.receive refused).rx = (two.receive refused).rx := by
  rcases joined with ⟨⟨node, control, prescale, slaves, stalls, losses⟩, transfer⟩
  unfold receive
  rw [← transfer]
  split
  · rename_i address _ _
    have visited := Table.visit_congr slaves address Slave.load
    refine ⟨⟨⟨⟨node, control, prescale, visited.2, stalls, losses⟩, rfl⟩, rfl, kept, kept'⟩, ?_⟩
    simp only [visited.1]
  · exact ⟨⟨⟨⟨node, control, prescale, slaves, stalls, losses⟩, rfl⟩, rfl, kept, kept'⟩, rfl⟩

/-! ## Commands -/

/-- Whether circuits agree, also in what a wait for the end of a command may look at and what the
next command finds on the wires. -/
structure Shown (stopped : Bool) (one two : Circuit) : Prop extends one.Agree two where
  lost : one.status.arbitrationLost = two.status.arbitrationLost
  transfer : one.status.arbitrationLost = false → one.transfer = two.transfer
  rxNack : one.status.arbitrationLost = false → one.status.rxNack = two.status.rxNack
  busy : one.status.arbitrationLost = false → stopped = true →
    one.status.busy = two.status.busy

theorem Agree.winning (agree : one.Agree two) (command : Command) :
    (one.winning command).Agree (two.winning command) :=
  ⟨agree.node, agree.control, agree.prescale, agree.slaves, agree.stalls, agree.losses⟩

theorem Agree.lose (agree : one.Agree two) (command : Command) :
    (one.heeding command).lose.Agree (two.heeding command).lose :=
  ⟨agree.node, agree.control, agree.prescale, agree.slaves, agree.stalls,
    congrArg (· - 1) agree.losses⟩

theorem Moved.conclude (moved : one.Moved two) (command : Command) :
    (one.conclude command).Shown command.stop (two.conclude command) := by
  rcases moved with
    ⟨⟨⟨node, control, prescale, slaves, stalls, losses⟩, transfer⟩, rxNack, kept, kept'⟩
  unfold Circuit.conclude
  cases stops : command.stop with
  | true =>
      exact ⟨⟨node, control, prescale, slaves, stalls, losses⟩, kept.trans kept'.symm,
        fun _ => rfl, fun _ => rxNack, fun _ _ => rfl⟩
  | false =>
      exact ⟨⟨node, control, prescale, slaves, stalls, losses⟩, kept.trans kept'.symm,
        fun _ => transfer, fun _ => rxNack, fun _ asked => Bool.noConfusion asked⟩

theorem execute_shown {command : Command} (asks : command ≠ {}) (agree : one.Agree two)
    (on : one.enabled = true)
    (moved : ((one.winning command).move command).Moved ((two.winning command).move command)) :
    (one.execute command).Shown command.stop (two.execute command) := by
  have on' : two.enabled = true := agree.enabled.symm.trans on
  rcases Nat.eq_zero_or_pos one.losses with wins | loses
  · rw [execute_won asks on wins, execute_won asks on' (agree.losses.symm.trans wins)]
    exact moved.conclude command
  · rw [execute_lost asks on loses, execute_lost asks on' (agree.losses ▸ loses)]
    exact ⟨agree.lose command, rfl, nofun, nofun, nofun⟩

theorem execute_rx {command : Command} (asks : command ≠ {}) (agree : one.Agree two)
    (on : one.enabled = true)
    (same : ((one.winning command).move command).rx = ((two.winning command).move command).rx)
    (kept : (one.execute command).status.arbitrationLost = false) :
    (one.execute command).rx = (two.execute command).rx := by
  have on' : two.enabled = true := agree.enabled.symm.trans on
  rcases Nat.eq_zero_or_pos one.losses with wins | loses
  · rw [execute_won asks on wins, execute_won asks on' (agree.losses.symm.trans wins)]
    rwa [conclude_rx, conclude_rx]
  · rw [execute_lost asks on loses] at kept
    cases kept

end ClockBoard.Simulation.Circuit
