import Mathlib.Data.List.Range
import ClockBoard.Proofs.Bus.Patience
import ClockBoard.Proofs.Bus.Phase
import ClockBoard.Proofs.Simulation.Built

/-!
A scan puts one address after the other on the wires and takes note of those that are acknowledged.
Each of its pings comes to the same whatever became of the ones before, for it is one command, which
stops the bus again, and no byte of it reaches a slave.

The main statement says which addresses a scan finds, and what it leaves behind.
-/

namespace ClockBoard.Simulation.Circuit

open ClockBoard.Core

/-- Whether the wires are free, and the core knows it. -/
structure Released (circuit : Circuit) : Prop where
  transfer : circuit.transfer = none
  held : circuit.held = false
  busy : circuit.status.busy = false

def probe : Command where
  start := true
  stop := true
  write := true

/-- What an address on the wires leaves behind: no slave has changed, and the wires are free. The
command was lost or not, and if not, the address was acknowledged or not. -/
structure Probed (address : UInt8) (before after : Circuit) : Prop extends Released after where
  slaves : after.slaves = before.slaves
  stalls : after.stalls = before.stalls
  losses : after.losses = before.losses - 1
  lost : after.status.arbitrationLost = decide (0 < before.losses)
  nack : before.losses = 0 → after.status.rxNack = !(before.slave? address).isSome

theorem execute_probe {circuit : Circuit} (on : circuit.enabled = true) :
    circuit.Probed (circuit.tx >>> 1) (circuit.execute probe) := by
  have asks : probe ≠ {} := by decide
  rcases Nat.eq_zero_or_pos circuit.losses with wins | loses
  · have moved : circuit.execute probe = (circuit.winning probe).select.conclude probe :=
      execute_won asks on wins
    rw [moved]
    exact
      { transfer := rfl
        held := rfl
        busy := rfl
        slaves := rfl
        stalls := rfl
        losses := by simp [conclude, probe, select, winning, heeding, wins]
        lost := by simp [select, winning, wins]
        nack := fun _ => rfl }
  · rw [execute_lost asks on loses]
    exact
      { transfer := rfl
        held := rfl
        busy := rfl
        slaves := rfl
        stalls := rfl
        losses := rfl
        lost := (decide_eq_true loses).symm
        nack := fun wins => absurd wins (Nat.ne_of_gt loses) }

end ClockBoard.Simulation.Circuit

namespace ClockBoard.Bus

open ClockBoard.Core ClockBoard.Link ClockBoard.Simulation ClockBoard.Routine

variable {bus : Bus} {circuit : Circuit} {address : UInt8}

/-! ## Pings of a core that does not stall -/

/-- Whether a core answers to a bus and will do its work after the next reset, without a stall. -/
structure Ready (bus : Bus) (circuit : Circuit) : Prop where
  node : circuit.node = bus.node
  usable : bus.Usable circuit
  progress : circuit.status.transferInProgress = false
  calm : circuit.stalls = 0

theorem Ready.reset (ready : bus.Ready circuit) :
    ∃ path after, bus.reset.run.run Circuit.serve circuit = (.ok path, after) ∧
      bus.Ready after ∧ after.enabled = true ∧ after.losses = circuit.losses ∧
      after.slaves = circuit.slaves := by
  rw [reset_run ready.node, program_programming]
  split
  · rename_i right
    have on : circuit.enabled = true := by
      cases ready.usable with
      | inl on => exact on
      | inr wrong => exact absurd right wrong
    exact ⟨_, _, rfl, ⟨ready.node, .inl on, ready.progress, ready.calm⟩, on, rfl, rfl⟩
  · exact ⟨_, _, rfl, ⟨ready.node, .inl rfl, ready.progress, ready.calm⟩, rfl, rfl, rfl⟩

theorem Ready.wait (ready : bus.Ready circuit) (waits : 0 < bus.config.pollAttempts)
    (needAck needIdle : Bool) :
    (bus.waitUntilFinished needAck needIdle).run.run Circuit.serve circuit =
      (if circuit.status.arbitrationLost then .error .arbitrationLost
        else outcome needAck needIdle circuit.status, circuit) := by
  have known : Register.ofPath? circuit.node (bus.path .command) = some .command := by
    rw [ready.node]
    exact Register.ofPath?_path bus.node .command
  have still : circuit.stall 0 = circuit := by
    rw [← ready.calm]
    rfl
  have polled := poll_succ_run needAck needIdle 1 (bus.config.pollAttempts - 1) 0 known
  rw [Nat.sub_add_cancel waits, still] at polled
  rw [waitUntilFinished, polled, ready.progress]
  cases circuit.status.arbitrationLost <;> rfl

theorem sendByte_run (node : circuit.node = bus.node) {command : Command}
    (oneWay : command.read = false) (byte : UInt8) :
    (bus.sendByte command byte).run.run Circuit.serve circuit =
      (bus.waitUntilFinished true command.stop).run.run Circuit.serve
        ({ circuit with tx := byte }.execute { command with write := true }) := by
  have knows : bus.Knows [.write (bus.path .data) byte.toUInt32,
      .write (bus.path .command) (Command.layout.toWord { command with write := true })] :=
    (Knows.nil.write _ _).write _ _
  have sent := exchange_run node knows
  rw [perform_send node] at sent
  rw [sendByte, wordOf_write oneWay]
  exact run_bind_ok sent

theorem ping_run (bus : Bus) (address : UInt8) (circuit : Circuit) :
    (bus.ping address).run Circuit.serve circuit =
      let tried := (bus.tryAddress address).run.run Circuit.serve circuit
      (tried.1.isOk, tried.2) := by
  rw [ping, bind_eq_bind, run_bind]
  rcases (bus.tryAddress address).run.run Circuit.serve circuit with ⟨answer, after⟩
  cases answer with
  | ok _ => rfl
  | error error => rfl

theorem Ready.tryAddress (ready : bus.Ready circuit) (waits : 0 < bus.config.pollAttempts)
    (valid : address ≤ lastAddress) :
    ∃ after, (bus.tryAddress address).run.run Circuit.serve circuit =
        (if after.status.arbitrationLost then .error .arbitrationLost
          else outcome true true after.status, after) ∧
      bus.Ready after ∧ circuit.Probed address after := by
  have checked : checkAddress address = .ok () := if_pos valid
  have isAddress := (addressByte_eq valid false).1
  -- The reset may switch the core on, but it leaves the slaves and the losses to come alone.
  obtain ⟨path, prepared, reset, again, on, losses, slaves⟩ := ready.reset
  let aimed : Circuit := { prepared with tx := addressByte address false }
  have probed : aimed.Probed _ (aimed.execute Circuit.probe) := Circuit.execute_probe on
  have steady := aimed.execute_steady Circuit.probe
  have left : bus.Ready (aimed.execute Circuit.probe) :=
    { node := steady.node.trans again.node
      usable := .inl (steady.enabled.trans on)
      progress := steady.progress.trans again.progress
      calm := probed.stalls.trans again.calm }
  refine ⟨aimed.execute Circuit.probe, ?_, left, ?_⟩
  · rw [Bus.tryAddress, checked]
    apply (run_bind_ok reset).trans
    apply (sendByte_run again.node rfl _).trans
    exact left.wait waits true true
  · have attached : aimed.slave? (aimed.tx >>> 1) = circuit.slave? address := by
      rw [isAddress, Circuit.slave?, Circuit.slave?, ← slaves]
    exact
      { toReleased := probed.toReleased
        slaves := probed.slaves.trans slaves
        stalls := left.calm.trans ready.calm.symm
        losses := losses ▸ probed.losses
        lost := losses ▸ probed.lost
        nack := fun wins => attached ▸ probed.nack (losses.trans wins) }

theorem Ready.ping (ready : bus.Ready circuit) (waits : 0 < bus.config.pollAttempts)
    (valid : address ≤ lastAddress) :
    ∃ after, (bus.ping address).run Circuit.serve circuit =
        (circuit.losses == 0 && (circuit.slave? address).isSome, after) ∧
      bus.Ready after ∧ circuit.Probed address after := by
  obtain ⟨after, tried, again, probed⟩ := ready.tryAddress waits valid
  refine ⟨after, ?_, again, probed⟩
  rw [ping_run, tried, probed.lost]
  rcases Nat.eq_zero_or_pos circuit.losses with wins | loses
  · have judged : outcome true true after.status =
        if (circuit.slave? address).isSome then .ok () else .error .noAcknowledge := by
      rw [outcome, Status.ackReceived, probed.nack wins, probed.busy]
      cases (circuit.slave? address).isSome <;> rfl
    rw [judged, wins]
    cases (circuit.slave? address).isSome <;> rfl
  · have lossy : (circuit.losses == 0) = false := beq_false_of_ne (Nat.ne_of_gt loses)
    rw [lossy, if_pos (decide_eq_true loses)]
    rfl

/-! ## Scans -/

/-- What a number of pings leaves behind: no slave has changed, and if there was any ping, the wires
are free. -/
structure Swept (count : Nat) (before after : Circuit) : Prop where
  slaves : after.slaves = before.slaves
  losses : after.losses = before.losses - count
  released : before.Released ∨ 0 < count → after.Released

theorem pingAll_run_cons {rest : List UInt8} {middle after : Circuit} {present : Bool}
    {found : List UInt8} (pinged : (bus.ping address).run Circuit.serve circuit = (present, middle))
    (others : (bus.pingAll rest).run Circuit.serve middle = (found, after)) :
    (bus.pingAll (address :: rest)).run Circuit.serve circuit =
      (if present then address :: found else found, after) := by
  rw [pingAll, bind_eq_bind, run_bind, pinged, bind_eq_bind, run_bind, others]
  rfl

theorem Ready.pingAll (ready : bus.Ready circuit) (waits : 0 < bus.config.pollAttempts)
    {addresses : List UInt8} (valid : ∀ address ∈ addresses, address ≤ lastAddress) :
    ∃ after, (bus.pingAll addresses).run Circuit.serve circuit =
        ((addresses.drop circuit.losses).filter fun address => (circuit.slave? address).isSome,
          after) ∧
      Swept addresses.length circuit after := by
  induction addresses generalizing circuit with
  | nil =>
      refine ⟨circuit, ?_, rfl, rfl, ?_⟩
      · rw [List.drop_nil]
        rfl
      · rintro (released | impossible)
        · exact released
        · cases impossible
  | cons address rest induction =>
      obtain ⟨first, others⟩ := List.forall_mem_cons.mp valid
      obtain ⟨middle, pinged, again, probed⟩ := ready.ping waits first
      obtain ⟨after, swept, left⟩ := induction again others
      have same (other : UInt8) : middle.slave? other = circuit.slave? other := by
        rw [Circuit.slave?, probed.slaves, Circuit.slave?]
      have count : middle.losses - rest.length = circuit.losses - (address :: rest).length := by
        rw [probed.losses, List.length_cons]
        omega
      refine ⟨after, ?_, left.slaves.trans probed.slaves, left.losses.trans count,
        fun _ => left.released (.inl probed.toReleased)⟩
      rw [pingAll_run_cons pinged swept, probed.losses]
      simp only [same]
      -- While commands are lost, each takes one address off the front of the list.
      cases circuit.losses with
      | zero => rw [Nat.zero_sub, List.drop_zero, List.drop_zero, List.filter_cons]; rfl
      | succ losses => rfl

theorem pingAll_run (node : circuit.node = bus.node) (usable : bus.Usable circuit)
    (progress : circuit.status.transferInProgress = false)
    (patient : circuit.stalls < bus.config.pollAttempts) {addresses : List UInt8}
    (valid : ∀ address ∈ addresses, address ≤ lastAddress) :
    ∃ after, (bus.pingAll addresses).run Circuit.serve circuit =
        ((addresses.drop circuit.losses).filter fun address => (circuit.slave? address).isSome,
          after) ∧
      Swept addresses.length circuit after := by
  -- The same core without the stall takes the pings as they are described above.
  have ready : bus.Ready (circuit.stall 0) := ⟨node, usable, progress, rfl⟩
  have waits : 0 < bus.config.pollAttempts := Nat.zero_lt_of_lt patient
  have lags : Circuit.Lags circuit.stalls (circuit.stall 0) circuit :=
    ⟨rfl, circuit.stalls, Nat.le_refl _, rfl⟩
  obtain ⟨after, ran, swept⟩ := ready.pingAll waits valid
  obtain ⟨same, _, left, _, late⟩ := patient_pingAll patient addresses _ _ lags
  rw [ran] at same late
  refine ⟨after.stall left, Prod.ext same.symm late, swept.slaves, swept.losses, ?_⟩
  intro begun
  have released := swept.released (begun.imp_left fun free => ⟨free.transfer, free.held, free.busy⟩)
  exact ⟨released.transfer, released.held, released.busy⟩

theorem scan_run (bus : Bus) (circuit : Circuit) :
    bus.scan.run Circuit.serve circuit = (bus.pingAll scanned).run Circuit.serve circuit := by
  rw [scan, bind_eq_bind, run_bind]
  rfl

theorem scanned_valid : ∀ address ∈ scanned, address ≤ lastAddress := by
  decide +kernel

theorem scanned_increasing : scanned.Pairwise (· < ·) := by
  decide +kernel

theorem length_scanned : scanned.length = 0x7F := by
  rw [scanned, List.length_map, List.length_range]

theorem mem_drop_scanned (count : Nat) (address : UInt8) :
    address ∈ scanned.drop count ↔ count ≤ address.toNat ∧ address ≤ 0x7E := by
  have numbers : (List.range 0x7F).drop count = List.range' count (0x7F - count) := by
    rw [List.range_eq_range', List.drop_range', Nat.mul_one, Nat.zero_add]
  rw [scanned, ← List.map_drop, numbers, List.mem_map, UInt8.le_iff_toNat_le]
  constructor
  · rintro ⟨number, member, rfl⟩
    obtain ⟨after, before⟩ := List.mem_range'_1.mp member
    have bound : number < UInt8.size := Nat.lt_of_lt_of_le (by omega : number < 0x7F) (by decide)
    have small : (UInt8.ofNat number).toNat = number := UInt8.toNat_ofNat_of_lt' bound
    rw [small]
    change count ≤ number ∧ number ≤ 0x7E
    omega
  · rintro ⟨after, before⟩
    have last : address.toNat ≤ 0x7E := before
    exact ⟨address.toNat, List.mem_range'_1.mpr (by omega), UInt8.ofNat_toNat⟩

/-- A scan finds the addresses of slaves in increasing order: of those that it tries, all but as
many as there are commands to be lost. No slave notices. After each ping, and so at the end, no
transfer is open and the wires are free. -/
theorem scan_exact (bus : Bus) (board : Board Circuit) (free : board.access = .free)
    (node : board.transport.node = bus.node) (built : board.transport.Built)
    (usable : bus.Usable board.transport)
    (patient : board.transport.stalls < bus.config.pollAttempts) :
    let circuit := board.transport
    let ended := board.run bus.scan
    ended.1.Pairwise (· < ·) ∧
    (∀ address, address ∈ ended.1 ↔
      (circuit.slave? address).isSome = true ∧ circuit.losses ≤ address.toNat ∧
        address ≤ 0x7E) ∧
    ended.2.transport.slaves = circuit.slaves ∧
    ended.2.transport.losses = circuit.losses - 0x7F ∧
    ended.2.transport.Released ∧
    ∀ count, 0 < count →
      (board.run (bus.pingAll (scanned.take count))).2.transport.Released := by
  intro circuit ended
  obtain ⟨result, reached⟩ := Circuit.board_run bus.scan board free
  obtain ⟨after, ran, swept⟩ := pingAll_run node usable built.progress patient scanned_valid
  rw [scan_run, ran] at result reached
  have found : ended.1 =
      (scanned.drop circuit.losses).filter fun address => (circuit.slave? address).isSome := result
  have final : ended.2.transport = after := reached
  rw [length_scanned] at swept
  rw [found, final]
  refine ⟨?_, ?_, swept.slaves, swept.losses, swept.released (.inr (by decide)), ?_⟩
  · exact (scanned_increasing.sublist (List.drop_sublist _ _)).filter _
  · intro address
    rw [List.mem_filter, mem_drop_scanned, And.comm]
  · intro count positive
    have valid : ∀ address ∈ scanned.take count, address ≤ lastAddress := fun address member =>
      scanned_valid address (List.mem_of_mem_take member)
    obtain ⟨middle, begun, part⟩ := pingAll_run node usable built.progress patient valid
    rw [(Circuit.board_run _ board free).2, begun]
    apply part.released
    right
    rw [List.length_take, length_scanned]
    exact Nat.lt_min.mpr ⟨positive, by decide⟩

/-- Of three slaves, the first is missed for the commands that are lost, and the last is out of
reach of a scan. -/
theorem scan_exact_three_slaves :
    let bus : Bus := { node := "i2c", config := {}, slaves := .empty }
    let one := (Circuit.ofNode "i2c").attach 0x02 .flat
    let three := (one.attach 0x50 .pages).attach 0x7F .flat
    let board := Board.ofTransport ((three.loseArbitration 3).stall 5)
    let ended := board.run bus.scan
    (∀ address, address ∈ ended.1 ↔ address = 0x50) ∧
      ended.2.transport.slaves = board.transport.slaves ∧ ended.2.transport.Released := by
  intro bus one three board ended
  have first : one.Built := .attach (.ofNode "i2c") 0x02 .flat (.inr rfl)
  have all : three.Built :=
    .attach (.attach first 0x50 .pages (.inl rfl)) 0x7F .flat (.inr rfl)
  have built : board.transport.Built := .stall (.loseArbitration all 3) 5
  have usable : bus.Usable board.transport := .inr (by decide)
  have attached (address : UInt8) : (board.transport.slave? address).isSome = true ↔
      address = 0x7F ∨ address = 0x50 ∨ address = 0x02 := by
    change (three.slaves.get? address).isSome = true ↔ _
    simp only [three, one, Circuit.attach, Table.get?_insert, Circuit.ofNode, Table.get?_empty]
    grind
  have losses : board.transport.losses = 3 := rfl
  have free : board.access = .free := rfl
  have node : board.transport.node = bus.node := rfl
  have patient : board.transport.stalls < bus.config.pollAttempts := by decide
  -- From here on it does not matter which board it is, and the scan must not be evaluated.
  clear_value board
  obtain ⟨_, member, slaves, _, released, _⟩ := scan_exact bus board free node built usable patient
  refine ⟨fun address => ?_, slaves, released⟩
  rw [member, attached, losses]
  constructor
  · rintro ⟨rfl | rfl | rfl, late, early⟩
    · exact absurd early (by decide)
    · rfl
    · exact absurd late (by decide)
  · rintro rfl
    decide

end ClockBoard.Bus
