import ClockBoard.Proofs.Chip.Contents
import ClockBoard.Proofs.Upload.Charges

/-!
What it takes to make an upload fail. Nothing is left behind by an attempt that fails, so each
attempt has to be spoilt anew: by a write that the slave refuses, by a command that loses
arbitration, or by a stall for as many status reads as the bus is ready to make.

The main statement bounds the number of registers that fail by the number of faults that were
pending.
-/

namespace ClockBoard.Chip.Si534x

open ClockBoard.Bus ClockBoard.Link ClockBoard.Simulation ClockBoard.Upload

variable {bus : Bus} {toll : Toll}

/-- What faults cost, where a stall for one status read costs one. -/
def faultCost (bus : Bus) (target : UInt8) (toll : Toll) : Nat :=
  bus.config.pollAttempts * (toll.losses + toll.refusals target) + toll.stalls

theorem le_faultCost {target : UInt8} (failed : toll.failed = [])
    (blames : toll.Blames bus.config.pollAttempts target) :
    bus.config.pollAttempts ≤ faultCost bus target toll := by
  unfold faultCost
  rcases blames with lost | stalled | lost | refused
  · exact absurd failed lost
  · omega
  · have one : bus.config.pollAttempts * 1 ≤
        bus.config.pollAttempts * (toll.losses + toll.refusals target) :=
      Nat.mul_le_mul_left _ (by omega)
    omega
  · have one : bus.config.pollAttempts * 1 ≤
        bus.config.pollAttempts * (toll.losses + toll.refusals target) :=
      Nat.mul_le_mul_left _ (by omega)
    omega

theorem le_of_faultCost {before after : Circuit} {target : UInt8} {slave : Slave} {count : Nat}
    (settles : before.Settles toll after) (attached : before.slave? target = some slave)
    (polls : 1 ≤ bus.config.pollAttempts)
    (paid : count * bus.config.pollAttempts ≤ faultCost bus target toll) :
    count ≤ slave.refusals + before.losses + before.stalls / bus.config.pollAttempts := by
  have stalls := settles.stalls
  have losses := settles.losses
  have refusals := settles.refusals target
  have pending := Circuit.refusalsAt_attached attached
  have spent : count * bus.config.pollAttempts ≤
      before.stalls + bus.config.pollAttempts * (slave.refusals + before.losses) := by
    calc count * bus.config.pollAttempts
      _ ≤ bus.config.pollAttempts * (toll.losses + toll.refusals target) + toll.stalls := paid
      _ ≤ bus.config.pollAttempts * (slave.refusals + before.losses) + before.stalls :=
          Nat.add_le_add (Nat.mul_le_mul_left _ (by omega)) (by omega)
      _ = _ := Nat.add_comm _ _
  calc count
    _ ≤ (before.stalls + bus.config.pollAttempts * (slave.refusals + before.losses)) /
          bus.config.pollAttempts := (Nat.le_div_iff_mul_le polls).mpr spent
    _ = before.stalls / bus.config.pollAttempts + (slave.refusals + before.losses) :=
        Nat.add_mul_div_left _ _ polls
    _ = _ := Nat.add_comm _ _

def charging (bus : Bus) (chip : Si534x) : Charging (Writes bus chip.writeRegister) where
  Ready circuit := circuit.node = bus.node ∧ circuit.status.transferInProgress = false ∧
    circuit.shape? chip.handle.address = some (true, 0x10000) ∧ bus.Usable circuit
  Fair toll := toll.failed = []
  cost := faultCost bus chip.handle.address
  price := bus.config.pollAttempts
  fair_add fair := List.append_eq_nil_iff.mp fair
  cost_add first rest := by
    simp only [faultCost, Toll.losses_add, Toll.refusals_add, Toll.stalls_add, Nat.mul_add]
    omega
  ready {request before answer after toll} possible fair ready := by
    rcases ready with ⟨node, progress, shape, usable⟩
    have lasting := Handle.served_lasting possible
    refine ⟨lasting.node.trans node, lasting.progress.trans progress,
      (lasting.shape _).trans shape, ?_⟩
    cases request with
    | write address value =>
        rcases writes_write possible with ⟨result, written, _⟩
        rcases usable_writeRegister node written usable with stays | ⟨_, _, failed⟩
        · exact stays
        · rw [fair] at failed
          cases failed
    | settle milliseconds =>
        rw [(writes_settle possible).1]
        exact usable
    | note event =>
        rw [(writes_note possible).1]
        exact usable
  charged {address value before reason after toll} possible fair ready := by
    rcases ready with ⟨node, progress, shape, usable⟩
    rcases writes_write possible with ⟨result, written, answer⟩
    rcases Option.map_eq_some_iff.mp shape with ⟨slave, attached, build⟩
    have paged : slave.paged = true := congrArg Prod.fst build
    cases result with
    | ok _ => cases answer
    | error error =>
        rcases runs_writeRegister node paged attached written with ⟨_, _, _, _, _, blames⟩
        exact le_faultCost fair (blames usable progress)

/-- An upload fails at no more registers than the faults that were pending can spoil all attempts
at. -/
theorem failures_bounded (bus : Bus) (chip : Si534x) (policy : Policy)
    (listing : Listing.Sectioned) (board : Board Circuit) (slave : Slave)
    (free : board.access = .free) (node : board.transport.node = bus.node)
    (built : board.transport.Built) (usable : bus.Usable board.transport)
    (attached : board.transport.slave? chip.handle.address = some slave)
    (paged : slave.paged = true) (polls : 1 ≤ bus.config.pollAttempts) :
    let ran := uploadOn bus chip.writeRegister (uploadSectioned policy listing) board
    let attempts := max policy.attempts 1
    let faults := slave.refusals + board.transport.losses +
      board.transport.stalls / bus.config.pollAttempts
    (reported ran.1).length * attempts ≤ faults ∧
      (faults < attempts → ran.1 = .ok .allApplied) := by
  intro ran attempts faults
  have build := (built.sound attached).paged_shape paged
  rcases upload_possible Circuit.hosting board free with ⟨toll, possible, settles⟩
  rcases ((charging bus chip).account policy).uploadSectioned possible with
    ⟨failures, result, pays⟩
  have isResult : ran.1 = conclude policy.mode failures := result
  have shape : board.transport.calm.shape? chip.handle.address = some (true, 0x10000) := by
    rw [Circuit.calm_shape?, ← build]
    exact congrArg (Option.map Slave.shape) attached
  rcases pays settles.failed ⟨node, built.progress, shape, usable⟩ with ⟨_, paid⟩
  have bounded : failures.length * attempts ≤ faults := by
    apply le_of_faultCost settles attached polls
    rwa [Nat.mul_assoc]
  rw [isResult, reported_conclude]
  refine ⟨bounded, ?_⟩
  intro few
  have none : failures = [] := by
    rcases Nat.eq_zero_or_pos failures.length with none | some
    · exact List.length_eq_zero_iff.mp none
    · have all : attempts ≤ failures.length * attempts := Nat.le_mul_of_pos_left _ some
      omega
  rw [none]
  rfl

theorem failures_bounded_few_faults :
    let bus : Bus := { node := "i2c", config := {}, slaves := .empty }
    let chip : Si534x := { handle := { address := 0x68 } }
    let slave := Slave.pages.refuseWrites 1
    let board := Board.ofTransport
      ((((Circuit.ofNode "i2c").attach 0x68 slave).stall 25).loseArbitration 1)
    let listing : Listing.Sectioned := {
      preamble := [⟨0x0B24, 0xC0⟩]
      registers := [⟨0x0502, 0x07⟩]
      postamble := [⟨0x0B24, 0xD8⟩] }
    (uploadOn bus chip.writeRegister (uploadSectioned { attempts := 4 } listing) board).1 =
      .ok .allApplied := by
  intro bus chip slave board listing
  have built : board.transport.Built :=
    .loseArbitration (.stall (.attach (.ofNode "i2c") 0x68 slave (.inl rfl)) 25) 1
  have usable : bus.Usable board.transport := .inr (by decide)
  have attached : board.transport.slave? chip.handle.address = some slave :=
    (Table.get?_insert _ _ _ _).trans (if_pos rfl)
  have bounded := failures_bounded bus chip { attempts := 4 } listing board slave rfl rfl built
    usable attached rfl (by decide)
  exact bounded.2 (by decide)

end ClockBoard.Chip.Si534x
