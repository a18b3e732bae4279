import Mathlib.Algebra.Group.Defs
import ClockBoard.Proofs.Simulation.Execution

/-!
A circuit counts what is still to go wrong with it: status reads that will show a stall, commands
that will lose arbitration, register writes that its slaves will refuse. A calm circuit has nothing
of the kind before it. What a run uses up of these counts is its toll, to which the batches that
failed on their way are added.

The main statement is that accesses only ever use the counts up.
-/

namespace ClockBoard.Simulation

open ClockBoard.Core ClockBoard.Link

/-- What went wrong in a run. The refusals are counted by slave. -/
@[ext] structure Toll where
  failed : List (List Operation)
  stalls : Nat
  losses : Nat
  refusals : UInt8 → Nat

namespace Toll

instance : Zero Toll := ⟨⟨[], 0, 0, fun _ => 0⟩⟩

instance : Add Toll :=
  ⟨fun first rest =>
    { failed := first.failed ++ rest.failed
      stalls := first.stalls + rest.stalls
      losses := first.losses + rest.losses
      refusals := fun address => first.refusals address + rest.refusals address }⟩

@[simp] theorem failed_zero : (0 : Toll).failed = [] := rfl

@[simp] theorem stalls_zero : (0 : Toll).stalls = 0 := rfl

@[simp] theorem losses_zero : (0 : Toll).losses = 0 := rfl

@[simp] theorem refusals_zero (address : UInt8) : (0 : Toll).refusals address = 0 := rfl

@[simp] theorem failed_add (first rest : Toll) :
    (first + rest).failed = first.failed ++ rest.failed := rfl

@[simp] theorem stalls_add (first rest : Toll) :
    (first + rest).stalls = first.stalls + rest.stalls := rfl

@[simp] theorem losses_add (first rest : Toll) :
    (first + rest).losses = first.losses + rest.losses := rfl

@[simp] theorem refusals_add (first rest : Toll) (address : UInt8) :
    (first + rest).refusals address = first.refusals address + rest.refusals address := rfl

instance : AddMonoid Toll where
  add_assoc first second third := by ext <;> simp [Nat.add_assoc]
  zero_add toll := by ext <;> simp
  add_zero toll := by ext <;> simp
  nsmul := nsmulRec

def failure (operations : List Operation) : Toll where
  failed := [operations]
  stalls := 0
  losses := 0
  refusals := fun _ => 0

/-- Whether a toll explains the failure of a transaction with a slave. A batch failed, or the core
stalled at as many status reads as there are attempts, or a command lost arbitration, or the slave
refused a write. -/
def Blames (toll : Toll) (attempts : Nat) (address : UInt8) : Prop :=
  toll.failed ≠ [] ∨ attempts ≤ toll.stalls ∨ 0 < toll.losses ∨ 0 < toll.refusals address

theorem Blames.add_right {first : Toll} {attempts : Nat} {address : UInt8}
    (blames : first.Blames attempts address) (rest : Toll) :
    (first + rest).Blames attempts address := by
  rcases blames with failed | stalled | lost | refused
  · left
    simp [failed]
  · exact .inr (.inl (Nat.le_trans stalled (Nat.le_add_right _ _)))
  · exact .inr (.inr (.inl (Nat.lt_of_lt_of_le lost (Nat.le_add_right _ _))))
  · exact .inr (.inr (.inr (Nat.lt_of_lt_of_le refused (Nat.le_add_right _ _))))

theorem Blames.add_left {rest : Toll} {attempts : Nat} {address : UInt8}
    (blames : rest.Blames attempts address) (first : Toll) :
    (first + rest).Blames attempts address := by
  rcases blames with failed | stalled | lost | refused
  · left
    simp [failed]
  · exact .inr (.inl (Nat.le_trans stalled (Nat.le_add_left _ _)))
  · exact .inr (.inr (.inl (Nat.lt_of_lt_of_le lost (Nat.le_add_left _ _))))
  · exact .inr (.inr (.inr (Nat.lt_of_lt_of_le refused (Nat.le_add_left _ _))))

theorem failed_of_not_blames {toll : Toll} {attempts : Nat} {address : UInt8}
    (faultless : ¬toll.Blames attempts address) : toll.failed = [] :=
  Classical.byContradiction fun failed => faultless (.inl failed)

end Toll

/-! ## Calm circuits -/

def Slave.calm (slave : Slave) : Slave :=
  { slave with refusals := 0 }

namespace Circuit

/-- A circuit as it is when nothing is still to go wrong with it. -/
def calm (circuit : Circuit) : Circuit :=
  { circuit with slaves := circuit.slaves.map Slave.calm, stalls := 0, losses := 0 }

@[simp] theorem calm_prescale (circuit : Circuit) : circuit.calm.prescale = circuit.prescale :=
  rfl

@[simp] theorem calm_rx (circuit : Circuit) : circuit.calm.rx = circuit.rx := rfl

@[simp] theorem calm_status (circuit : Circuit) : circuit.calm.status = circuit.status := rfl

@[simp] theorem calm_transfer (circuit : Circuit) : circuit.calm.transfer = circuit.transfer :=
  rfl

@[simp] theorem calm_slave? (circuit : Circuit) (address : UInt8) :
    circuit.calm.slave? address = (circuit.slave? address).map Slave.calm :=
  Table.get?_map Slave.calm circuit.slaves address

theorem slave?_of_calm {circuit : Circuit} {address : UInt8} {slave : Slave}
    (attached : circuit.calm.slave? address = some slave) :
    ∃ actual, circuit.slave? address = some actual ∧ actual.calm = slave := by
  rw [calm_slave?] at attached
  exact Option.map_eq_some_iff.mp attached

@[simp] theorem calm_shape? (circuit : Circuit) (address : UInt8) :
    circuit.calm.shape? address = circuit.shape? address := by
  rw [shape?, calm_slave?, Option.map_map]
  rfl

def refusalsAt (circuit : Circuit) (address : UInt8) : Nat :=
  ((circuit.slave? address).map Slave.refusals).getD 0

theorem calm_attached {circuit : Circuit} {address : UInt8} {slave : Slave}
    (attached : circuit.slave? address = some slave) :
    circuit.calm.slave? address = some slave.calm := by
  rw [calm_slave?, attached, Option.map_some]

theorem refusalsAt_attached {circuit : Circuit} {address : UInt8} {slave : Slave}
    (attached : circuit.slave? address = some slave) :
    circuit.refusalsAt address = slave.refusals := by
  rw [refusalsAt, attached]
  rfl

/-- Whether a toll is what separates the counts of a circuit from those of an earlier one. -/
structure Settles (before : Circuit) (toll : Toll) (after : Circuit) : Prop where
  failed : toll.failed = []
  stalls : before.stalls = toll.stalls + after.stalls
  losses : before.losses = toll.losses + after.losses
  refusals : ∀ address,
    before.refusalsAt address = toll.refusals address + after.refusalsAt address

theorem Settles.faultless {before after : Circuit} {toll : Toll} {address : UInt8} {attempts : Nat}
    (settles : before.Settles toll after) (polls : 1 ≤ attempts) (stalls : before.stalls = 0)
    (losses : before.losses = 0) (refusals : before.refusalsAt address = 0) :
    ¬toll.Blames attempts address := by
  have stalled := settles.stalls
  have lost := settles.losses
  have refused := settles.refusals address
  rintro (failed | many | some | some)
  · exact failed settles.failed
  · omega
  · omega
  · omega

theorem calm_slave?_of_refusalsAt {circuit : Circuit} {address : UInt8}
    (refusals : circuit.refusalsAt address = 0) :
    circuit.calm.slave? address = circuit.slave? address := by
  rw [calm_slave?]
  cases attached : circuit.slave? address with
  | none => rfl
  | some slave =>
      have none : slave.refusals = 0 := by simpa [refusalsAt, attached] using refusals
      rw [Option.map_some, Slave.calm, ← none]

theorem Settles.slave?_eq {before after : Circuit} {toll : Toll} {address : UInt8}
    (settles : before.Settles toll after) (refusals : before.refusalsAt address = 0) :
    after.slave? address = after.calm.slave? address := by
  have refused := settles.refusals address
  exact (calm_slave?_of_refusalsAt (by omega)).symm

/-- The counts of a circuit only go down. -/
structure Wanes (before after : Circuit) : Prop where
  stalls : after.stalls ≤ before.stalls
  losses : after.losses ≤ before.losses
  refusals : ∀ address, after.refusalsAt address ≤ before.refusalsAt address

theorem Settles.refl (circuit : Circuit) : circuit.Settles 0 circuit :=
  ⟨rfl, by simp, by simp, by simp⟩

theorem Settles.trans {before middle after : Circuit} {first rest : Toll}
    (one : before.Settles first middle) (two : middle.Settles rest after) :
    before.Settles (first + rest) after where
  failed := by simp [one.failed, two.failed]
  stalls := by rw [one.stalls, two.stalls, Toll.stalls_add, Nat.add_assoc]
  losses := by rw [one.losses, two.losses, Toll.losses_add, Nat.add_assoc]
  refusals address := by
    rw [one.refusals, two.refusals, Toll.refusals_add, Nat.add_assoc]

theorem Wanes.refl (circuit : Circuit) : circuit.Wanes circuit :=
  ⟨Nat.le_refl _, Nat.le_refl _, fun _ => Nat.le_refl _⟩

theorem Wanes.trans {before middle after : Circuit} (one : before.Wanes middle)
    (two : middle.Wanes after) : before.Wanes after where
  stalls := Nat.le_trans two.stalls one.stalls
  losses := Nat.le_trans two.losses one.losses
  refusals address := Nat.le_trans (two.refusals address) (one.refusals address)

theorem Wanes.settles {before after : Circuit} (wanes : before.Wanes after) :
    ∃ toll, before.Settles toll after := by
  refine ⟨⟨[], before.stalls - after.stalls, before.losses - after.losses,
    fun address => before.refusalsAt address - after.refusalsAt address⟩, rfl, ?_, ?_, ?_⟩
  · exact (Nat.sub_add_cancel wanes.stalls).symm
  · exact (Nat.sub_add_cancel wanes.losses).symm
  · intro address
    exact (Nat.sub_add_cancel (wanes.refusals address)).symm

/-! ## Accesses -/

theorem slave?_insert (circuit : Circuit) (address other : UInt8) (slave : Slave) :
    { circuit with slaves := circuit.slaves.insert address slave }.slave? other =
      if address = other then some slave else circuit.slave? other :=
  Table.get?_insert _ _ _ _

theorem Wanes.visit {β : Type} (circuit : Circuit) (address : UInt8)
    (action : Slave → β × Slave)
    (wanes : ∀ slave, (action slave).2.refusals ≤ slave.refusals) :
    circuit.Wanes { circuit with slaves := (circuit.slaves.visit address action).2 } := by
  refine ⟨Nat.le_refl _, Nat.le_refl _, ?_⟩
  intro other
  rw [Table.visit_eq]
  unfold refusalsAt
  cases found : circuit.slaves.get? address with
  | none => exact Nat.le_refl _
  | some slave =>
      simp only [slave?_insert]
      by_cases same : address = other
      · subst same
        simp only [slave?, found, if_true]
        exact wanes slave
      · simp [same]

theorem Wanes.of_eq {before after : Circuit} (stalls : after.stalls = before.stalls)
    (losses : after.losses = before.losses) (slaves : after.slaves = before.slaves) :
    before.Wanes after :=
  ⟨Nat.le_of_eq stalls, Nat.le_of_eq losses, fun address => by
    simp [refusalsAt, slave?, slaves]⟩

theorem store_refusals_le (slave : Slave) (value : UInt8) :
    (slave.store value).2.refusals ≤ slave.refusals := by
  unfold Slave.store
  split
  · exact Nat.sub_le _ _
  · exact Nat.le_refl _

theorem send_wanes (circuit : Circuit) : circuit.Wanes circuit.send := by
  unfold send
  split
  · rename_i address pointed _
    refine Wanes.trans (Wanes.visit circuit address _ ?_) (Wanes.of_eq rfl rfl rfl)
    intro slave
    cases pointed
    · exact Nat.le_refl _
    · exact store_refusals_le slave circuit.tx
  · exact Wanes.of_eq rfl rfl rfl

theorem receive_wanes (refused : Bool) (circuit : Circuit) :
    circuit.Wanes (circuit.receive refused) := by
  unfold receive
  split
  · refine Wanes.trans (Wanes.visit circuit _ Slave.load ?_) (Wanes.of_eq rfl rfl rfl)
    intro slave
    exact Nat.le_refl _
  · exact Wanes.of_eq rfl rfl rfl

theorem move_wanes (command : Command) (circuit : Circuit) :
    circuit.Wanes (circuit.move command) := by
  unfold move
  split
  · split
    · exact Wanes.of_eq rfl rfl rfl
    · exact send_wanes circuit
  · split
    · exact receive_wanes command.ack circuit
    · exact Wanes.refl circuit

theorem conclude_wanes (command : Command) (circuit : Circuit) :
    circuit.Wanes (circuit.conclude command) := by
  unfold conclude
  split <;> exact Wanes.of_eq rfl rfl rfl

theorem execute_wanes (command : Command) (circuit : Circuit) :
    circuit.Wanes (circuit.execute command) := by
  apply execute_induction circuit.Wanes
  · exact Wanes.refl circuit
  · exact Wanes.of_eq rfl rfl rfl
  · exact ⟨Nat.le_refl _, Nat.sub_le _ _, fun _ => Nat.le_refl _⟩
  · have won : circuit.Wanes (circuit.winning command) := Wanes.of_eq rfl rfl rfl
    exact (won.trans (move_wanes command _)).trans (conclude_wanes command _)

theorem write_wanes (circuit : Circuit) (value : UInt32) (register : Register) :
    circuit.Wanes (circuit.write value register) := by
  cases register with
  | command => exact execute_wanes _ circuit
  | _ => exact Wanes.of_eq rfl rfl rfl

theorem readStatus_wanes (circuit : Circuit) : circuit.Wanes circuit.readStatus.2 := by
  unfold readStatus
  split
  · exact ⟨Nat.sub_le _ _, Nat.le_refl _, fun _ => Nat.le_refl _⟩
  · exact Wanes.refl circuit

theorem read_wanes (circuit : Circuit) (register : Register) :
    circuit.Wanes (circuit.read register).2 := by
  cases register with
  | command => exact readStatus_wanes circuit
  | _ => exact Wanes.refl circuit

theorem perform_wanes (operations : List Operation) (circuit : Circuit) :
    circuit.Wanes (perform operations circuit).2 := by
  apply perform_keeps circuit.Wanes
  · intro later value register kept
    exact kept.trans (write_wanes later value register)
  · intro later register kept
    exact kept.trans (read_wanes later register)
  · exact Wanes.refl circuit

end Circuit

end ClockBoard.Simulation
