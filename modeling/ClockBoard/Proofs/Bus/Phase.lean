import ClockBoard.Proofs.Bus.Byte
import ClockBoard.Proofs.Simulation.Storage

/-!
A transaction has an address phase, which selects a slave, and a data phase, which moves bytes one
by one. The statements here say for one byte of each phase what it makes of the slave if it goes
well, what it may make of it if it does not, and whom a failure is to be blamed on.
-/

namespace ClockBoard.Bus

open ClockBoard.Core ClockBoard.Link ClockBoard.Simulation

variable {bus : Bus} {before after : Circuit} {toll : Toll} {address : UInt8} {slave : Slave}

/-! ## Address bytes -/

private theorem addressByte_ofNat (address : Fin 128) (reading : Bool) :
    addressByte (UInt8.ofNat address) reading >>> 1 = UInt8.ofNat address ∧
      (addressByte (UInt8.ofNat address) reading &&& 1 == 1) = reading := by
  revert address reading
  decide +kernel

theorem addressByte_eq (inRange : address ≤ lastAddress) (reading : Bool) :
    addressByte address reading >>> 1 = address ∧
      (addressByte address reading &&& 1 == 1) = reading := by
  have bound : address.toNat < 128 := Nat.lt_succ_of_le (UInt8.le_iff_toNat_le.mp inRange)
  simpa using addressByte_ofNat ⟨address.toNat, bound⟩ reading

theorem Waited.blames {needAck needIdle : Bool} {status : Status} {error : Error}
    (waited : Waited needAck needIdle bus.config.pollAttempts status toll (.error error))
    (progress : status.transferInProgress = false) (kept : status.arbitrationLost = false)
    (acked : status.rxNack = false ∨ needAck = false)
    (idle : needIdle = true → status.busy = false) (address : UInt8) :
    toll.Blames bus.config.pollAttempts address := by
  rcases waited with failed | stalled | shown | shown | ⟨asked, shown⟩ | ⟨asked, shown⟩
  · exact .inl failed
  · exact .inr (.inl stalled)
  · rw [progress] at shown
    cases shown
  · rw [kept] at shown
    cases shown
  · rcases acked with acked | acked
    · rw [acked] at shown
      cases shown
    · rw [acked] at asked
      cases asked
  · rw [idle asked] at shown
    cases shown

theorem Waited.blames_conclude {needAck needIdle : Bool} {moved : Circuit} {command : Command}
    {error : Error}
    (waited : Waited needAck needIdle bus.config.pollAttempts (moved.conclude command).status toll
      (.error error))
    (progress : (moved.conclude command).status.transferInProgress = false)
    (kept : moved.status.arbitrationLost = false)
    (acked : moved.status.rxNack = false ∨ needAck = false)
    (idle : needIdle = true → command.stop = true) (address : UInt8) :
    toll.Blames bus.config.pollAttempts address := by
  apply waited.blames progress
  · rwa [Circuit.conclude_arbitrationLost]
  · rwa [Circuit.conclude_rxNack]
  · intro asked
    exact Circuit.conclude_idle (idle asked) moved

theorem sent_slave? {actual : Circuit} {byte : UInt8}
    (looks : actual.calm = { before with tx := byte }) (other : UInt8) :
    actual.calm.slave? other = before.slave? other :=
  congrArg (fun circuit => circuit.slave? other) looks

theorem steady_of_looks {actual : Circuit} {byte : UInt8}
    (looks : actual.calm = { before with tx := byte }) : before.Steady actual := by
  have node := congrArg Circuit.node looks
  have control := congrArg Circuit.control looks
  have prescale := congrArg Circuit.prescale looks
  have progress := congrArg (fun circuit => circuit.status.transferInProgress) looks
  exact ⟨node, control, prescale, progress⟩

/-- A byte never gets onto the wires, so that no slave notices and the wait fails; or it is moved,
and what is left to do is to wait. -/
theorem runs_sendByte_moved {command : Command} {byte : UInt8} {result : Except Error Unit}
    (node : before.node = bus.node) (oneWay : command.read = false)
    (runs : Runs (bus.sendByte command byte).run before result after toll) :
    (before.Steady after ∧ (∀ other, after.slave? other = before.slave? other) ∧
        (∃ error, result = .error error) ∧
        (before.enabled = true → ∀ address, toll.Blames bus.config.pollAttempts address)) ∨
      ∃ (actual final : Circuit) (first rest : Toll), actual.calm = { before with tx := byte } ∧
        before.enabled = true ∧ toll = first + rest ∧
        final = ((actual.winning { command with write := true }).move
          { command with write := true }).conclude { command with write := true } ∧
        actual.Settles first final ∧ final.calm.node = bus.node ∧
        Runs (bus.waitUntilFinished true command.stop).run final.calm result after rest := by
  rcases runs_sendByte node oneWay runs with
    ⟨rfl, failed, failure⟩ | ⟨actual, first, rest, looks, settles, rfl, reached, waiting⟩
  · exact .inl ⟨.refl _, fun _ => rfl, failure, fun _ _ => .inl failed⟩
  · have steady := steady_of_looks looks
    have slaves := sent_slave? looks
    rcases actual.execute_cases { command with write := true } with
      ⟨blank, _⟩ | ⟨_, off, equal⟩ | ⟨_, on, loses, equal⟩ | ⟨_, on, wins, equal⟩
    · exact absurd (congrArg Command.write blank) Bool.noConfusion
    · rw [equal] at reached waiting
      rcases runs_wait reached waiting with ⟨rfl, waited⟩
      refine .inl ⟨steady.trans ⟨rfl, rfl, rfl, rfl⟩, slaves, ?_, ?_⟩
      · cases result with
        | ok _ => cases waited.2.1 rfl
        | error error => exact ⟨error, rfl⟩
      · intro on
        rw [← steady.enabled, off] at on
        cases on
    · rw [equal] at reached waiting settles
      rcases runs_wait reached waiting with ⟨rfl, waited⟩
      have spent := settles.losses
      refine .inl ⟨steady.trans ⟨rfl, rfl, rfl, rfl⟩, slaves, ?_, ?_⟩
      · cases result with
        | ok _ => cases waited.1
        | error error => exact ⟨error, rfl⟩
      · intro _ address
        have lost : 0 < first.losses := by
          simp only [Circuit.lose, Circuit.heeding] at spent
          omega
        exact Toll.Blames.add_right (.inr (.inr (.inl lost))) rest
    · exact .inr ⟨actual, _, first, rest, looks, steady.enabled ▸ on, rfl, equal, settles, reached,
        waiting⟩

theorem runs_sendByte_cases {command : Command} {byte : UInt8} {result : Except Error Unit}
    (node : before.node = bus.node) (oneWay : command.read = false)
    (runs : Runs (bus.sendByte command byte).run before result after toll) :
    (before.Steady after ∧ (∀ other, after.slave? other = before.slave? other) ∧
        (∃ error, result = .error error) ∧
        (before.enabled = true → ∀ address, toll.Blames bus.config.pollAttempts address)) ∨
      ∃ (actual final : Circuit) (first rest : Toll), actual.calm = { before with tx := byte } ∧
        before.enabled = true ∧ toll = first + rest ∧ after = final.calm ∧
        final = ((actual.winning { command with write := true }).move
          { command with write := true }).conclude { command with write := true } ∧
        actual.Settles first final ∧
        Waited true command.stop bus.config.pollAttempts final.status rest result := by
  rcases runs_sendByte_moved node oneWay runs with
    unmoved | ⟨actual, final, first, rest, looks, on, rfl, equal, settles, reached, waiting⟩
  · exact .inl unmoved
  · rcases runs_wait reached waiting with ⟨rfl, waited⟩
    exact .inr ⟨actual, final, first, rest, looks, on, rfl, rfl, equal, settles, waited⟩

theorem sent_steady {actual final : Circuit} {byte : UInt8} {command : Command}
    (looks : actual.calm = { before with tx := byte })
    (equal : final = ((actual.winning command).move command).conclude command) :
    before.Steady final.calm := by
  have won : actual.Steady (actual.winning command) := ⟨rfl, rfl, rfl, rfl⟩
  have moved := (Circuit.move_steady command (actual.winning command)).trans
    (Circuit.conclude_steady command _)
  rw [← equal] at moved
  exact (((steady_of_looks looks).trans won).trans moved).trans ⟨rfl, rfl, rfl, rfl⟩

theorem runs_sendAddress {reading stop : Bool} {result : Except Error Unit}
    (node : before.node = bus.node) (inRange : address ≤ lastAddress)
    (attached : before.slave? address = some slave)
    (runs : Runs (bus.sendByte { start := true, stop } (addressByte address reading)).run before
      result after toll) :
    before.Steady after ∧ (∀ other, after.slave? other = before.slave? other) ∧
      Ends
        (fun _ => before.enabled = true ∧
          (stop = false → after.transfer = some ⟨address, reading, false⟩))
        (before.enabled = true → before.status.transferInProgress = false →
          toll.Blames bus.config.pollAttempts address)
        result := by
  rcases runs_sendByte_cases node rfl runs with
    ⟨steady, same, ⟨error, rfl⟩, blames⟩ |
    ⟨actual, final, first, rest, looks, enabled, rfl, rfl, equal, settles, waited⟩
  · exact ⟨steady, same, fun on _ => blames on address⟩
  · rcases addressByte_eq inRange reading with ⟨isAddress, isReading⟩
    have tx : actual.tx = addressByte address reading := congrArg Circuit.tx looks
    have steady := sent_steady looks equal
    have present : actual.calm.slave? (actual.tx >>> 1) = some slave := by
      rw [sent_slave? looks, tx, isAddress, attached]
    rcases Circuit.slave?_of_calm present with ⟨held, found, rfl⟩
    have selected : (actual.winning { start := true, stop, write := true }).select = _ :=
      Circuit.select_attached found
    rw [Circuit.winning_tx, tx, isAddress, isReading] at selected
    simp only [Circuit.move, if_true, selected] at equal
    subst equal
    refine ⟨steady, ?_, ?_⟩
    · intro other
      rw [Circuit.calm_slave?, Circuit.conclude_slave?, ← sent_slave? looks, Circuit.calm_slave?]
      rfl
    · cases result with
      | ok _ =>
          refine ⟨enabled, ?_⟩
          intro goesOn
          exact Circuit.conclude_transfer goesOn _
      | error error =>
          intro _ progress
          have idle := steady.progress.trans progress
          exact (waited.blames_conclude idle rfl (.inl rfl) id address).add_left first

/-! ## Data bytes -/

/-- What sending a byte to a slave makes of the slave. A byte that went wrong may have been taken
nevertheless. -/
theorem runs_sendData {pointed stop : Bool} {byte : UInt8} {result : Except Error Unit}
    (node : before.node = bus.node) (on : before.enabled = true)
    (opened : before.transfer = some ⟨address, false, pointed⟩)
    (attached : before.slave? address = some slave)
    (runs : Runs (bus.sendByte { stop } byte).run before result after toll) :
    before.Steady after ∧
      Ends
        (fun _ => before.Turned address (slave.accept pointed byte) after ∧
          (stop = false → after.transfer = some ⟨address, false, true⟩))
        ((before.Turned address slave after ∨
            before.Turned address (slave.accept pointed byte) after) ∧
          (before.status.transferInProgress = false →
            toll.Blames bus.config.pollAttempts address))
        result := by
  rcases runs_sendByte_cases node rfl runs with
    ⟨steady, same, ⟨error, rfl⟩, blames⟩ |
    ⟨actual, final, first, rest, looks, _, rfl, rfl, equal, settles, waited⟩
  · exact ⟨steady, .inl (.of_same attached same), fun _ => blames on address⟩
  · have tx : actual.tx = byte := congrArg Circuit.tx looks
    have transfer := congrArg Circuit.transfer looks
    have steady := sent_steady looks equal
    have present : actual.calm.slave? address = some slave := by
      rw [sent_slave? looks, attached]
    rcases Circuit.slave?_of_calm present with ⟨held, found, rfl⟩
    have bound : (actual.winning { stop, write := true }).transfer =
        some ⟨address, false, pointed⟩ := transfer.trans opened
    have same : ∀ other, actual.calm.slave? other = before.slave? other := sent_slave? looks
    simp only [Circuit.move, if_true, Bool.false_eq_true, if_false] at equal
    refine ⟨steady, ?_⟩
    by_cases takes : pointed = true → held.refusals = 0
    · -- The slave takes the byte, and nothing in the status speaks against it.
      rw [Circuit.send_accepted bound found takes, Circuit.winning_tx, tx] at equal
      have becomes : actual.Turned address (held.accept pointed byte) final := by
        rw [equal]
        exact .conclude _ (.insert rfl)
      have turned : before.Turned address (held.calm.accept pointed byte) final.calm := by
        rw [← Slave.calm_accept]
        exact fun other => same other ▸ becomes.calm other
      cases result with
      | ok _ =>
          refine ⟨turned, ?_⟩
          intro goesOn
          rw [equal]
          exact Circuit.conclude_transfer goesOn _
      | error error =>
          refine ⟨.inr turned, ?_⟩
          intro progress
          have idle := steady.progress.trans progress
          rw [Circuit.calm_status, equal] at idle
          rw [equal] at waited
          exact (waited.blames_conclude idle rfl (.inl rfl) id address).add_left first
    · -- The slave refuses the byte, which counts one of its refusals down.
      rw [Classical.not_imp] at takes
      rcases takes with ⟨rfl, refuses⟩
      have refuses : 0 < held.refusals := Nat.pos_of_ne_zero refuses
      rw [Circuit.send_refused bound found refuses] at equal
      have becomes : actual.Turned address { held with refusals := held.refusals - 1 } final := by
        rw [equal]
        exact .conclude _ (.insert rfl)
      have kept : before.Turned address held.calm final.calm :=
        fun other => same other ▸ becomes.calm other
      have nack : final.status.rxNack = true := by rw [equal, Circuit.conclude_rxNack]
      cases result with
      | ok _ =>
          have acked := waited.2.1 rfl
          rw [nack] at acked
          cases acked
      | error error =>
          refine ⟨.inl kept, fun _ => Toll.Blames.add_right (.inr (.inr (.inr ?_))) rest⟩
          have spent := settles.refusals address
          simp only [Circuit.refusalsAt, becomes.slave?, found, Option.map_some,
            Option.getD_some] at spent
          omega

theorem runs_receiveData {pointed stop ack : Bool} {result : Except Error UInt8}
    (node : before.node = bus.node) (on : before.enabled = true)
    (opened : before.transfer = some ⟨address, true, pointed⟩)
    (attached : before.slave? address = some slave)
    (runs : Runs (bus.receiveByte { stop, ack }).run before result after toll) :
    before.Steady after ∧
      Ends
        (fun byte => byte = slave.load.1 ∧ before.Turned address slave.load.2 after ∧
          (stop = false → after.transfer = some ⟨address, true, pointed⟩))
        ((before.Turned address slave after ∨ before.Turned address slave.load.2 after) ∧
          (before.status.transferInProgress = false →
            toll.Blames bus.config.pollAttempts address))
        result := by
  rcases runs_receiveByte node rfl runs with
    ⟨rfl, failed, error, rfl⟩ | ⟨actual, first, rest, rfl, rfl, settles, rfl, ends⟩
  · exact ⟨.refl _, .inl (.of_same attached fun _ => rfl), fun _ => .inl failed⟩
  · rcases Circuit.slave?_of_calm attached with ⟨held, found, rfl⟩
    have steady : actual.calm.Steady (actual.execute { stop, ack, read := true }).calm :=
      ⟨(Circuit.execute_steady _ _).node, (Circuit.execute_steady _ _).control,
        (Circuit.execute_steady _ _).prescale, (Circuit.execute_steady _ _).progress⟩
    refine ⟨steady, ?_⟩
    rcases actual.execute_cases { stop, ack, read := true } with
      ⟨blank, _⟩ | ⟨_, off, _⟩ | ⟨_, _, loses, equal⟩ | ⟨_, _, _, equal⟩
    · exact absurd (congrArg Command.read blank) Bool.noConfusion
    · exact absurd (on.symm.trans off) Bool.noConfusion
    · rw [equal] at settles ends ⊢
      cases result with
      | ok byte => cases ends.2
      | error error =>
          refine ⟨.inl (.of_same attached fun _ => rfl), fun _ => Toll.Blames.add_right ?_ rest⟩
          have spent := settles.losses
          have lost : 0 < first.losses := by
            simp only [Circuit.lose, Circuit.heeding] at spent
            omega
          exact .inr (.inr (.inl lost))
    · have bound : (actual.winning { stop, ack, read := true }).transfer =
          some ⟨address, true, pointed⟩ := opened
      simp only [Circuit.move, if_true, Bool.false_eq_true, if_false] at equal
      rw [Circuit.receive_attached ack bound found] at equal
      have becomes : actual.Turned address held.load.2
          (actual.execute { stop, ack, read := true }) := by
        rw [equal]
        exact .conclude _ (.insert rfl)
      have turned := becomes.calm
      rw [Slave.calm_load] at turned
      cases result with
      | ok byte =>
          refine ⟨?_, turned, ?_⟩
          · rw [ends.1, Circuit.calm_rx, equal, Circuit.conclude_rx, Slave.load_calm_fst]
          · intro goesOn
            rw [Circuit.calm_transfer, equal]
            exact (Circuit.conclude_transfer goesOn _).trans bound
      | error error =>
          refine ⟨.inr turned, ?_⟩
          intro progress
          rcases ends with ⟨error, waited⟩
          have idle := steady.progress.trans progress
          rw [Circuit.calm_status, equal] at idle waited
          have patient : false = true → stop = true := fun asked => absurd asked Bool.noConfusion
          exact (waited.blames_conclude idle rfl (.inr rfl) patient address).add_left first

end ClockBoard.Bus
