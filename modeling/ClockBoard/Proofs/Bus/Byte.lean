import ClockBoard.Bus.Transaction
import ClockBoard.Proofs.Bus.Wait

/-!
What moving one byte over the wires may come to. A byte is moved by one command, and the wait for
its end tells whether it arrived.
-/

namespace ClockBoard.Bus

open ClockBoard.Core ClockBoard.Link ClockBoard.Simulation

variable {bus : Bus} {before after : Circuit} {toll : Toll}

@[simp] theorem command_ofWord_toWord (command : Command) :
    Command.layout.ofWord (Command.layout.toWord command) = command :=
  Command.lawful.ofWord_toWord command

theorem wordOf_write {command : Command} (oneWay : command.read = false) :
    wordOf { command with write := true } =
      .ok (Command.layout.toWord { command with write := true }) := by
  simp [wordOf, Command.word?, oneWay]

theorem wordOf_read {command : Command} (oneWay : command.write = false) :
    wordOf { command with read := true } =
      .ok (Command.layout.toWord { command with read := true }) := by
  simp [wordOf, Command.word?, oneWay]

theorem perform_send {circuit : Circuit} (node : circuit.node = bus.node) (byte : UInt8)
    (command : Command) :
    Circuit.perform [.write (bus.path .data) byte.toUInt32,
        .write (bus.path .command) (Command.layout.toWord command)] circuit =
      ([], { circuit with tx := byte }.execute command) := by
  have aimed : (circuit.write byte.toUInt32 .data).node = bus.node := node
  rw [perform_write node, perform_write aimed]
  simp [Circuit.perform, Circuit.write]

/-- A byte is not sent at all, or one command sends it and what is left to do is to wait. -/
theorem runs_sendByte {command : Command} {byte : UInt8} {result : Except Error Unit}
    (node : before.node = bus.node) (oneWay : command.read = false)
    (runs : Runs (bus.sendByte command byte).run before result after toll) :
    (after = before ∧ toll.failed ≠ [] ∧ ∃ error, result = .error error) ∨
      ∃ (actual : Circuit) (first rest : Toll), actual.calm = { before with tx := byte } ∧
        actual.Settles first (actual.execute { command with write := true }) ∧
        toll = first + rest ∧
        (actual.execute { command with write := true }).calm.node = bus.node ∧
        Runs (bus.waitUntilFinished true command.stop).run
          (actual.execute { command with write := true }).calm result after rest := by
  rw [sendByte, wordOf_write oneWay] at runs
  have sent := (Routine.possible_liftOk_bind_run _ _ _).mp runs
  rcases (Routine.possible_bind_run _ _ _).mp sent with
    ⟨error, rfl, exchanged⟩ | ⟨_, _, first, rest, exchanged, waited, rfl⟩
  · have knows : bus.Knows [.write (bus.path .data) byte.toUInt32, .write (bus.path .command)
        (Command.layout.toWord { command with write := true })] :=
      (Knows.nil.write _ _).write _ _
    rcases runs_exchange_error node knows exchanged with ⟨_, rfl, rfl⟩
    exact .inl ⟨rfl, List.cons_ne_nil _ _, error, rfl⟩
  · rcases runs_exchange_ok node exchanged with ⟨actual, rfl, under, _, rfl, settles⟩
    rw [perform_send under] at settles waited
    have steady := Circuit.execute_steady { actual with tx := byte }
      { command with write := true }
    have spent : { actual with tx := byte }.Settles first
        ({ actual with tx := byte }.execute { command with write := true }) :=
      ⟨settles.failed, settles.stalls, settles.losses, settles.refusals⟩
    exact .inr ⟨{ actual with tx := byte }, first, rest, rfl, spent, rfl,
      steady.node.trans under, waited⟩

theorem runs_receiveByte {command : Command} {result : Except Error UInt8}
    (node : before.node = bus.node) (oneWay : command.write = false)
    (runs : Runs (bus.receiveByte command).run before result after toll) :
    (after = before ∧ toll.failed ≠ [] ∧ ∃ error, result = .error error) ∨
      ∃ (actual : Circuit) (first rest : Toll), actual.calm = before ∧
        after = (actual.execute { command with read := true }).calm ∧
        actual.Settles first (actual.execute { command with read := true }) ∧
        toll = first + rest ∧
        Ends
          (fun byte => byte = after.rx ∧ after.status.arbitrationLost = false)
          (∃ error, Waited false false bus.config.pollAttempts after.status rest (.error error))
          result := by
  rw [receiveByte, wordOf_read oneWay] at runs
  have asked := (Routine.possible_liftOk_bind_run _ _ _).mp runs
  rcases (Routine.possible_bind_run _ _ _).mp asked with
    ⟨error, rfl, written⟩ | ⟨_, middle, first, rest, written, waiting, rfl⟩
  · rcases runs_writeRegister_error node written with ⟨_, rfl, rfl⟩
    exact .inl ⟨rfl, List.cons_ne_nil _ _, error, rfl⟩
  · rcases runs_writeRegister_ok node written with ⟨actual, rfl, rfl, settles⟩
    simp only [Circuit.write, command_ofWord_toWord] at settles waiting
    have steady := Circuit.execute_steady actual { command with read := true }
    have reached : (actual.execute { command with read := true }).calm.node = bus.node :=
      steady.node.trans node
    refine .inr ⟨actual, first, rest, rfl, ?_⟩
    rcases (Routine.possible_bind_run _ _ _).mp waiting with
      ⟨error, rfl, waited⟩ | ⟨_, _, second, third, waited, reading, rfl⟩
    · rcases runs_wait reached waited with ⟨rfl, judged⟩
      exact ⟨rfl, settles, rfl, error, judged⟩
    · rcases runs_wait reached waited with ⟨rfl, judged⟩
      rcases (Routine.possible_bind_run _ _ _).mp reading with
        ⟨error, rfl, read⟩ | ⟨value, _, fourth, fifth, read, ⟨rfl, rfl, rfl⟩, rfl⟩
      · rcases runs_readRegister_error reached read with ⟨_, rfl, rfl⟩
        refine ⟨rfl, settles, rfl, error, .inl ?_⟩
        rw [Toll.failed_add]
        exact List.append_ne_nil_of_right_ne_nil _ (List.cons_ne_nil _ _)
      · rcases runs_readRegister_ok reached read with ⟨holding, alike, rfl, same, _⟩
        have equal := same.trans alike
        have received : (holding.read .data).1.toUInt8 = holding.rx := UInt8.toUInt8_toUInt32 _
        refine ⟨equal, settles, rfl, ?_, equal ▸ judged.1⟩
        rw [same]
        exact received

end ClockBoard.Bus
