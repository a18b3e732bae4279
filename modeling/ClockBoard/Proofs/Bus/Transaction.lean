import ClockBoard.Proofs.Bus.Phase
import ClockBoard.Proofs.Bus.Reset

/-!
What transactions may come to. One that goes well has moved its whole block; one that fails has
moved some bytes from the start of the block, and on a core that was usable the failure can be
blamed on what went wrong meanwhile.
-/

namespace ClockBoard.Bus

open ClockBoard.Core ClockBoard.Link ClockBoard.Simulation

variable {bus : Bus} {before after : Circuit} {toll : Toll} {address : UInt8} {slave : Slave}

/-! ## Blocks of bytes -/

theorem runs_sendBytes {pointed stop : Bool} {bytes : List UInt8} {result : Except Error Unit}
    (node : before.node = bus.node) (on : before.enabled = true)
    (opened : bytes ≠ [] → before.transfer = some ⟨address, false, pointed⟩)
    (attached : before.slave? address = some slave)
    (runs : Runs (bus.sendBytes stop bytes).run before result after toll) :
    Ends
      (fun _ => after.enabled = true ∧ before.Turned address (slave.acceptAll pointed bytes) after)
      ((∃ accepted, accepted <+: bytes ∧
          before.Turned address (slave.acceptAll pointed accepted) after) ∧
        (before.status.transferInProgress = false →
          toll.Blames bus.config.pollAttempts address))
      result := by
  induction bytes generalizing before slave pointed toll with
  | nil =>
      rcases runs with ⟨rfl, rfl, rfl⟩
      exact ⟨on, .of_same attached fun _ => rfl⟩
  | cons byte rest induction =>
      have opened := opened (List.cons_ne_nil _ _)
      rcases (Routine.possible_bind_run _ _ _).mp runs with
        ⟨error, rfl, sent⟩ | ⟨_, middle, first, others, sent, continued, rfl⟩
      · rcases runs_sendData node on opened attached sent with ⟨_, kept | taken, blames⟩
        · exact ⟨⟨[], List.nil_prefix, kept⟩, blames⟩
        · exact ⟨⟨[byte], ⟨rest, rfl⟩, taken⟩, blames⟩
      · rcases runs_sendData node on opened attached sent with ⟨steady, turned, goesOn⟩
        have still : rest ≠ [] → middle.transfer = some ⟨address, false, true⟩ := by
          intro more
          apply goesOn
          simp [more]
        have ends := induction (steady.node.trans node) (steady.enabled.trans on) still
          turned.slave? continued
        cases result with
        | ok _ => exact ⟨ends.1, turned.trans ends.2⟩
        | error error =>
            rcases ends with ⟨⟨accepted, isPrefix, reached⟩, blames⟩
            refine ⟨⟨byte :: accepted, ?_, turned.trans reached⟩, ?_⟩
            · exact (List.prefix_cons_inj byte).mpr isPrefix
            · intro progress
              exact (blames (steady.progress.trans progress)).add_left first

theorem runs_receiveBytes {pointed : Bool} {received : List UInt8} {count : Nat}
    {result : Except Error (List UInt8)} (node : before.node = bus.node)
    (on : before.enabled = true)
    (opened : count ≠ 0 → before.transfer = some ⟨address, true, pointed⟩)
    (attached : before.slave? address = some slave)
    (runs : Runs (bus.receiveBytes received count).run before result after toll) :
    Ends
      (fun bytes => after.enabled = true ∧ bytes = received.reverse ++ (slave.loadAll count).1 ∧
        before.Turned address (slave.loadAll count).2 after)
      ((∃ loaded, before.Turned address (slave.loadAll loaded).2 after) ∧
        (before.status.transferInProgress = false →
          toll.Blames bus.config.pollAttempts address))
      result := by
  induction count generalizing before slave received toll with
  | zero =>
      rcases runs with ⟨rfl, rfl, rfl⟩
      exact ⟨on, (List.append_nil _).symm, .of_same attached fun _ => rfl⟩
  | succ count induction =>
      have opened := opened (Nat.succ_ne_zero _)
      rcases (Routine.possible_bind_run _ _ _).mp runs with
        ⟨error, rfl, got⟩ | ⟨byte, middle, first, others, got, continued, rfl⟩
      · rcases runs_receiveData node on opened attached got with ⟨_, kept | given, blames⟩
        · exact ⟨⟨0, kept⟩, blames⟩
        · exact ⟨⟨1, given⟩, blames⟩
      · rcases runs_receiveData node on opened attached got with ⟨steady, rfl, turned, goesOn⟩
        have still : count ≠ 0 → middle.transfer = some ⟨address, true, pointed⟩ := by
          intro more
          apply goesOn
          simp [more]
        have ends := induction (steady.node.trans node) (steady.enabled.trans on) still
          turned.slave? continued
        cases result with
        | ok bytes =>
            rcases ends with ⟨stays, rfl, reached⟩
            refine ⟨stays, ?_, turned.trans reached⟩
            simp [Slave.loadAll]
        | error error =>
            rcases ends with ⟨⟨loaded, reached⟩, blames⟩
            refine ⟨⟨loaded + 1, turned.trans reached⟩, ?_⟩
            intro progress
            exact (blames (steady.progress.trans progress)).add_left first

/-! ## Transactions -/

theorem runs_opening {middle : Circuit} {path : ResetPath} {first rest : Toll}
    {reading stop : Bool} {result : Except Error Unit} (node : before.node = bus.node)
    (inRange : address ≤ lastAddress) (attached : before.slave? address = some slave)
    (reset : Runs bus.reset.run before (.ok path) middle first)
    (sent : Runs (bus.sendByte { start := true, stop } (addressByte address reading)).run middle
      result after rest) :
    before.Turned address slave after ∧ after.node = bus.node ∧
      after.status.transferInProgress = before.status.transferInProgress ∧
      Ends
        (fun _ => bus.Usable before ∧ after.enabled = true ∧
          (stop = false → after.transfer = some ⟨address, reading, false⟩))
        (bus.Usable before → before.status.transferInProgress = false →
          (first + rest).Blames bus.config.pollAttempts address)
        result := by
  have lasting := runs_lasting reset
  have reached : middle.node = bus.node := lasting.node.trans node
  have same := runs_reset_slave? node reset
  rcases runs_reset_ok node reset with ⟨_, _, usable, _⟩
  rcases runs_sendAddress reached inRange ((same address).trans attached) sent with
    ⟨steady, kept, ends⟩
  refine ⟨.of_same attached fun other => (kept other).trans (same other),
    steady.node.trans reached, steady.progress.trans lasting.progress, ?_⟩
  cases result with
  | ok _ => exact ⟨usable.mp ends.1, steady.enabled.trans ends.1, ends.2⟩
  | error error =>
      intro works progress
      exact (ends (usable.mpr works) (lasting.progress.trans progress)).add_left first

theorem runs_writeBlock {bytes : List UInt8} {stop : Bool} {result : Except Error Unit}
    (node : before.node = bus.node) (inRange : address ≤ lastAddress)
    (attached : before.slave? address = some slave)
    (runs : Runs (bus.writeBlock address bytes stop).run before result after toll) :
    Ends
      (fun _ => bus.Usable before ∧ after.enabled = true ∧
        before.Turned address (slave.acceptAll false bytes) after)
      ((∃ accepted, accepted <+: bytes ∧
          before.Turned address (slave.acceptAll false accepted) after) ∧
        (bus.Usable before → before.status.transferInProgress = false →
          toll.Blames bus.config.pollAttempts address))
      result := by
  rw [writeBlock, checkAddress, if_pos inRange] at runs
  rcases (Routine.possible_bind_run _ _ _).mp
      ((Routine.possible_liftOk_bind_run _ _ _).mp runs) with
    ⟨error, rfl, reset⟩ | ⟨path, middle, first, rest, reset, continued, rfl⟩
  · have same := runs_reset_slave? node reset
    exact ⟨⟨[], List.nil_prefix, .of_same attached same⟩,
      fun _ _ => .inl (runs_reset_error node reset)⟩
  · rcases (Routine.possible_bind_run _ _ _).mp ((runs_remark_bind _ _ _ _ _).mp continued) with
      ⟨error, rfl, sent⟩ | ⟨_, opened, second, third, sent, moved, rfl⟩
    · rcases runs_opening node inRange attached reset sent with ⟨turned, _, _, blames⟩
      exact ⟨⟨[], List.nil_prefix, turned⟩, blames⟩
    · rcases runs_opening node inRange attached reset sent with
        ⟨turned, reached, lasting, usable, on, transfer⟩
      have still : bytes ≠ [] → opened.transfer = some ⟨address, false, false⟩ := by
        intro more
        apply transfer
        simp [more]
      have ends := runs_sendBytes reached on still turned.slave? moved
      cases result with
      | ok _ => exact ⟨usable, ends.1, turned.trans ends.2⟩
      | error error =>
          rcases ends with ⟨⟨accepted, isPrefix, taken⟩, blames⟩
          refine ⟨⟨accepted, isPrefix, turned.trans taken⟩, ?_⟩
          intro _ progress
          exact ((blames (lasting.trans progress)).add_left second).add_left first

theorem runs_readBlock {count : Nat} {result : Except Error (List UInt8)}
    (node : before.node = bus.node) (inRange : address ≤ lastAddress)
    (attached : before.slave? address = some slave)
    (runs : Runs (bus.readBlock address count).run before result after toll) :
    Ends
      (fun bytes => bus.Usable before ∧ after.enabled = true ∧
        bytes = (slave.loadAll count).1 ∧ before.Turned address (slave.loadAll count).2 after)
      ((∃ loaded, before.Turned address (slave.loadAll loaded).2 after) ∧
        (bus.Usable before → before.status.transferInProgress = false →
          toll.Blames bus.config.pollAttempts address))
      result := by
  rw [readBlock, checkAddress, if_pos inRange] at runs
  rcases (Routine.possible_bind_run _ _ _).mp
      ((Routine.possible_liftOk_bind_run _ _ _).mp runs) with
    ⟨error, rfl, reset⟩ | ⟨path, middle, first, rest, reset, continued, rfl⟩
  · have same := runs_reset_slave? node reset
    exact ⟨⟨0, .of_same attached same⟩, fun _ _ => .inl (runs_reset_error node reset)⟩
  · rcases (Routine.possible_bind_run _ _ _).mp ((runs_remark_bind _ _ _ _ _).mp continued) with
      ⟨error, rfl, sent⟩ | ⟨_, opened, second, third, sent, moved, rfl⟩
    · rcases runs_opening node inRange attached reset sent with ⟨turned, _, _, blames⟩
      exact ⟨⟨0, turned⟩, blames⟩
    · rcases runs_opening node inRange attached reset sent with
        ⟨turned, reached, lasting, usable, on, transfer⟩
      have still : count ≠ 0 → opened.transfer = some ⟨address, true, false⟩ := by
        intro more
        apply transfer
        simp [more]
      have ends := runs_receiveBytes reached on still turned.slave? moved
      cases result with
      | ok _ => exact ⟨usable, ends.1, ends.2.1, turned.trans ends.2.2⟩
      | error error =>
          rcases ends with ⟨⟨loaded, given⟩, blames⟩
          refine ⟨⟨loaded, turned.trans given⟩, ?_⟩
          intro _ progress
          exact ((blames (lasting.trans progress)).add_left second).add_left first

/-- What reading registers makes of a slave: whatever becomes of it, only the pointer moves. -/
theorem runs_readArray {register : UInt8} {count : Nat} {result : Except Error (List UInt8)}
    (node : before.node = bus.node) (inRange : address ≤ lastAddress)
    (attached : before.slave? address = some slave)
    (runs : Runs (bus.readArray address register count).run before result after toll) :
    (∃ pointer, before.Turned address (slave.pointTo pointer) after) ∧
      Ends
        (fun bytes => bus.Usable before ∧ after.enabled = true ∧
          bytes = ((slave.pointTo register).loadAll count).1 ∧
          before.Turned address ((slave.pointTo register).loadAll count).2 after)
        (bus.Usable before → before.status.transferInProgress = false →
          toll.Blames bus.config.pollAttempts address)
        result := by
  rcases (Routine.possible_bind_run _ _ _).mp runs with
    ⟨error, rfl, pointed⟩ | ⟨_, middle, first, rest, pointed, read, rfl⟩
  · rcases runs_writeBlock node inRange attached pointed with ⟨⟨accepted, isPrefix, turned⟩, blames⟩
    refine ⟨?_, blames⟩
    rcases List.prefix_cons_iff.mp isPrefix with rfl | ⟨_, rfl, none⟩
    · exact ⟨slave.pointer, turned⟩
    · cases List.prefix_nil.mp none
      exact ⟨register, turned⟩
  · rcases runs_writeBlock node inRange attached pointed with ⟨usable, on, turned⟩
    have lasting := runs_lasting pointed
    have ends := runs_readBlock (lasting.node.trans node) inRange turned.slave? read
    cases result with
    | ok bytes =>
        rcases ends with ⟨_, stays, same, given⟩
        have reached := turned.trans given
        rcases Slave.loadAll_pointTo count (slave.pointTo register) with ⟨pointer, equal⟩
        exact ⟨⟨pointer, equal ▸ reached⟩, usable, stays, same, reached⟩
    | error error =>
        rcases ends with ⟨⟨loaded, given⟩, blames⟩
        have reached := turned.trans given
        rcases Slave.loadAll_pointTo loaded (slave.pointTo register) with ⟨pointer, equal⟩
        refine ⟨⟨pointer, equal ▸ reached⟩, ?_⟩
        intro _ progress
        exact (blames (.inl on) (lasting.progress.trans progress)).add_left first

theorem runs_tryAddress {result : Except Error Unit} (node : before.node = bus.node)
    (inRange : address ≤ lastAddress) (attached : before.slave? address = some slave)
    (runs : Runs (bus.tryAddress address).run before result after toll) :
    Ends
      (fun _ => bus.Usable before ∧ after.enabled = true)
      (bus.Usable before → before.status.transferInProgress = false →
        toll.Blames bus.config.pollAttempts address)
      result := by
  rw [tryAddress, checkAddress, if_pos inRange] at runs
  rcases (Routine.possible_bind_run _ _ _).mp
      ((Routine.possible_liftOk_bind_run _ _ _).mp runs) with
    ⟨error, rfl, reset⟩ | ⟨path, middle, first, rest, reset, sent, rfl⟩
  · exact fun _ _ => .inl (runs_reset_error node reset)
  · rcases runs_opening node inRange attached reset sent with ⟨_, _, _, ends⟩
    cases result with
    | ok _ => exact ⟨ends.1, ends.2.1⟩
    | error error => exact ends

/-! ## Register writes -/

/-- Whether work with a slave makes it take register writes as planned: all of them if the work goes
well, and otherwise some from the start of the plan, with a failure that can be blamed on what went
wrong meanwhile. -/
def Lands {ε α : Type} (bus : Bus) (address : UInt8) (plan : List (UInt16 × UInt8))
    (before : Circuit) (slave : Slave) (result : Except ε α) (after : Circuit) (toll : Toll) :
    Prop :=
  ∃ done turned, done <+: plan ∧ before.Turned address turned after ∧ slave.Wrote done turned ∧
    Ends
      (fun _ => done = plan ∧ bus.Usable before ∧ after.enabled = true)
      (bus.Usable before → before.status.transferInProgress = false →
        toll.Blames bus.config.pollAttempts address)
      result

theorem Lands.cut {ε δ α β : Type} {plan later : List (UInt16 × UInt8)} {error : ε} {other : δ}
    (lands : bus.Lands address plan before slave (.error error : Except ε α) after toll) :
    bus.Lands address (plan ++ later) before slave (.error other : Except δ β) after toll := by
  rcases lands with ⟨done, turned, isPrefix, becomes, wrote, blames⟩
  exact ⟨done, turned, isPrefix.trans (List.prefix_append _ _), becomes, wrote, blames⟩

theorem Lands.trans {ε δ α β : Type} {middle : Circuit} {plan later : List (UInt16 × UInt8)}
    {value : α} {result : Except δ β} {first rest : Toll} (lasting : before.Lasting middle)
    (one : bus.Lands address plan before slave (.ok value : Except ε α) middle first)
    (two : ∀ reached, middle.slave? address = some reached → slave.Wrote plan reached →
      bus.Lands address later middle reached result after rest) :
    bus.Lands address (plan ++ later) before slave result after (first + rest) := by
  rcases one with ⟨_, reached, _, turned, wrote, rfl, usable, on⟩
  rcases two reached turned.slave? wrote with ⟨done, last, isPrefix, becomes, wrote', ends⟩
  refine ⟨_ ++ done, last, (List.prefix_append_right_inj _).mpr isPrefix, turned.trans becomes,
    wrote.trans wrote', ?_⟩
  cases result with
  | ok _ =>
      rcases ends with ⟨rfl, _, stays⟩
      exact ⟨rfl, usable, stays⟩
  | error error =>
      intro _ progress
      exact (ends (.inl on) (lasting.progress.trans progress)).add_left first

theorem runs_readArray_lands {register : UInt8} {count : Nat} {result : Except Error (List UInt8)}
    (node : before.node = bus.node) (inRange : address ≤ lastAddress)
    (attached : before.slave? address = some slave)
    (runs : Runs (bus.readArray address register count).run before result after toll) :
    bus.Lands address [] before slave result after toll := by
  rcases runs_readArray node inRange attached runs with ⟨⟨pointer, turned⟩, ends⟩
  refine ⟨[], _, List.nil_prefix, turned, .pointTo slave pointer, ?_⟩
  cases result with
  | ok _ => exact ⟨rfl, ends.1, ends.2.1⟩
  | error error => exact ends

theorem runs_writeArray {register value : UInt8} {result : Except Error Unit}
    (node : before.node = bus.node) (inRange : address ≤ lastAddress)
    (attached : before.slave? address = some slave)
    (runs : Runs (bus.writeArray address register [value] true).run before result after toll) :
    bus.Lands address [((slave.pointTo register).current, value)] before slave result after
      toll := by
  have ends := runs_writeBlock node inRange attached runs
  cases result with
  | ok _ =>
      rcases ends with ⟨usable, on, turned⟩
      exact ⟨_, _, List.prefix_rfl, turned, .put slave register value, rfl, usable, on⟩
  | error error =>
      rcases ends with ⟨⟨accepted, isPrefix, turned⟩, blames⟩
      rcases List.prefix_cons_iff.mp isPrefix with rfl | ⟨_, rfl, others⟩
      · exact ⟨[], _, List.nil_prefix, turned, .refl slave, blames⟩
      · rcases List.prefix_cons_iff.mp others with rfl | ⟨_, rfl, more⟩
        · exact ⟨[], _, List.nil_prefix, turned, .pointTo slave register, blames⟩
        · cases List.prefix_nil.mp more
          exact ⟨_, _, List.prefix_rfl, turned, .put slave register value, blames⟩

end ClockBoard.Bus
