import ClockBoard.Proofs.Bus.Transaction

/-!
What transactions come to with an address that no slave has. The address byte is not acknowledged,
so the transaction fails there and no slave notices it, unless something else goes wrong before.
-/

namespace ClockBoard.Bus

open ClockBoard.Core ClockBoard.Link ClockBoard.Simulation

variable {bus : Bus} {before after : Circuit} {toll : Toll} {address : UInt8}

/-- Whether work failed for want of an acknowledgement, or something can be blamed for its failure,
and all slaves were left alone. -/
def Unanswered {α : Type} (bus : Bus) (address : UInt8) (before : Circuit)
    (result : Except Error α) (after : Circuit) (toll : Toll) : Prop :=
  (∀ other, after.slave? other = before.slave? other) ∧
    ∃ error, result = .error error ∧
      (error = .noAcknowledge ∨ toll.Blames bus.config.pollAttempts address)

theorem Unanswered.map {α β : Type} {view : α → β} {result : Except Error α}
    (unanswered : bus.Unanswered address before result after toll) :
    bus.Unanswered address before (result.map view) after toll := by
  rcases unanswered with ⟨same, error, rfl, ends⟩
  exact ⟨same, error, rfl, ends⟩

theorem runs_sendAddress_absent {reading stop : Bool} {result : Except Error Unit}
    (node : before.node = bus.node) (inRange : address ≤ lastAddress)
    (on : before.enabled = true) (progress : before.status.transferInProgress = false)
    (absent : before.slave? address = none)
    (runs : Runs (bus.sendByte { start := true, stop } (addressByte address reading)).run before
      result after toll) :
    bus.Unanswered address before result after toll := by
  rcases runs_sendByte_moved node rfl runs with
    ⟨_, same, ⟨error, rfl⟩, blames⟩ |
    ⟨actual, final, first, rest, looks, _, rfl, equal, _, reached, waiting⟩
  · exact ⟨same, error, rfl, .inr (blames on address)⟩
  · rcases runs_wait reached waiting with ⟨rfl, waited⟩
    have steady := sent_steady looks equal
    have tx : actual.tx = addressByte address reading := congrArg Circuit.tx looks
    have missing : (actual.winning { start := true, stop, write := true }).slave?
        ((actual.winning { start := true, stop, write := true }).tx >>> 1) = none := by
      have none := sent_slave? looks address
      rw [absent, Circuit.calm_slave?, Option.map_eq_none_iff] at none
      rwa [Circuit.winning_tx, tx, (addressByte_eq inRange reading).1]
    simp only [Circuit.move, if_true, Circuit.select_absent missing] at equal
    have same : ∀ other, final.calm.slave? other = before.slave? other := by
      intro other
      rw [equal, Circuit.calm_slave?, Circuit.conclude_slave?, ← sent_slave? looks,
        Circuit.calm_slave?]
      rfl
    have kept : final.status.arbitrationLost = false := by
      rw [equal, Circuit.conclude_arbitrationLost]
      rfl
    have refused : final.status.rxNack = true := by rw [equal, Circuit.conclude_rxNack]
    have quiet := steady.progress.trans progress
    refine ⟨same, ?_⟩
    cases result with
    | ok _ => exact absurd ((waited.2.1 rfl).symm.trans refused) Bool.noConfusion
    | error error =>
        refine ⟨error, rfl, ?_⟩
        rcases runs_poll_over reached kept quiet waiting with ended | failed | many
        · left
          simpa [outcome, Status.ackReceived, refused] using ended
        · exact .inr (Toll.Blames.add_left (.inl failed) first)
        · exact .inr (Toll.Blames.add_left (.inr (.inl many)) first)

/-! ## Transactions -/

theorem runs_opening_absent {α : Type} {reading stop : Bool} {result : Except Error α}
    {more : Unit → Action α} {middle : Circuit} {path : ResetPath} {first rest : Toll}
    (node : before.node = bus.node) (inRange : address ≤ lastAddress)
    (usable : bus.Usable before) (progress : before.status.transferInProgress = false)
    (absent : before.slave? address = none)
    (reset : Runs bus.reset.run before (.ok path) middle first)
    (opened : Runs
      (bus.sendByte { start := true, stop } (addressByte address reading) >>= more).run middle
      result after rest) :
    bus.Unanswered address before result after (first + rest) := by
  have lasting := runs_lasting reset
  have same := runs_reset_slave? node reset
  have on := (runs_reset_ok node reset).2.2.1.mpr usable
  have unanswered : ∀ {answer last toll}, Runs
      (bus.sendByte { start := true, stop } (addressByte address reading)).run middle answer last
        toll → bus.Unanswered address middle answer last toll :=
    runs_sendAddress_absent (lasting.node.trans node) inRange on
      (lasting.progress.trans progress) ((same address).trans absent)
  rcases (Routine.possible_bind_run _ _ _).mp opened with
    ⟨error, rfl, sent⟩ | ⟨_, _, _, _, sent, _⟩
  · rcases unanswered sent with ⟨kept, _, equal, ends⟩
    cases equal
    refine ⟨fun other => (kept other).trans (same other), error, rfl, ?_⟩
    exact ends.imp_right fun blames => blames.add_left first
  · rcases unanswered sent with ⟨_, _, equal, _⟩
    cases equal

theorem runs_writeBlock_absent {bytes : List UInt8} {stop : Bool} {result : Except Error Unit}
    (node : before.node = bus.node) (inRange : address ≤ lastAddress)
    (usable : bus.Usable before) (progress : before.status.transferInProgress = false)
    (absent : before.slave? address = none)
    (runs : Runs (bus.writeBlock address bytes stop).run before result after toll) :
    bus.Unanswered address before result after toll := by
  rw [writeBlock, checkAddress, if_pos inRange] at runs
  rcases (Routine.possible_bind_run _ _ _).mp
      ((Routine.possible_liftOk_bind_run _ _ _).mp runs) with
    ⟨error, rfl, reset⟩ | ⟨path, middle, first, rest, reset, continued, rfl⟩
  · exact ⟨runs_reset_slave? node reset, error, rfl, .inr (.inl (runs_reset_error node reset))⟩
  · exact runs_opening_absent node inRange usable progress absent reset
      ((runs_remark_bind _ _ _ _ _).mp continued)

theorem runs_readBlock_absent {count : Nat} {result : Except Error (List UInt8)}
    (node : before.node = bus.node) (inRange : address ≤ lastAddress)
    (usable : bus.Usable before) (progress : before.status.transferInProgress = false)
    (absent : before.slave? address = none)
    (runs : Runs (bus.readBlock address count).run before result after toll) :
    bus.Unanswered address before result after toll := by
  rw [readBlock, checkAddress, if_pos inRange] at runs
  rcases (Routine.possible_bind_run _ _ _).mp
      ((Routine.possible_liftOk_bind_run _ _ _).mp runs) with
    ⟨error, rfl, reset⟩ | ⟨path, middle, first, rest, reset, continued, rfl⟩
  · exact ⟨runs_reset_slave? node reset, error, rfl, .inr (.inl (runs_reset_error node reset))⟩
  · exact runs_opening_absent node inRange usable progress absent reset
      ((runs_remark_bind _ _ _ _ _).mp continued)

theorem runs_readArray_absent {register : UInt8} {count : Nat}
    {result : Except Error (List UInt8)} (node : before.node = bus.node)
    (inRange : address ≤ lastAddress) (usable : bus.Usable before)
    (progress : before.status.transferInProgress = false)
    (absent : before.slave? address = none)
    (runs : Runs (bus.readArray address register count).run before result after toll) :
    bus.Unanswered address before result after toll := by
  rcases (Routine.possible_bind_run _ _ _).mp runs with
    ⟨error, rfl, pointed⟩ | ⟨_, _, _, _, pointed, _⟩
  · rcases runs_writeBlock_absent node inRange usable progress absent pointed with
      ⟨same, _, equal, ends⟩
    cases equal
    exact ⟨same, error, rfl, ends⟩
  · rcases runs_writeBlock_absent node inRange usable progress absent pointed with
      ⟨_, _, equal, _⟩
    cases equal

end ClockBoard.Bus
