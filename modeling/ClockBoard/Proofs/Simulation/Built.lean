import ClockBoard.Proofs.Simulation.Execution

/-!
The circuits that a simulation can come to: what is set up, and what batches make of it. Some
states of the data type are not among them, and statements about all circuits are about these.
-/

namespace ClockBoard.Simulation

open ClockBoard.Core ClockBoard.Link

/-- The two kinds of slaves: those with 256 pages, and those without pages. -/
def Slave.Sound (slave : Slave) : Prop :=
  slave.shape = Slave.pages.shape ∨ slave.shape = Slave.flat.shape

namespace Circuit

/-- A circuit that was set up by the functions for it, and has carried batches meanwhile. Slaves may
be attached in any state. -/
inductive Built : Circuit → Prop
  | ofNode (node : String) : Built (.ofNode node)
  | attach {circuit : Circuit} (built : Built circuit) (address : UInt8) (slave : Slave)
      (sound : slave.Sound) : Built (circuit.attach address slave)
  | refuseWrites {circuit : Circuit} (built : Built circuit) (address : UInt8) (count : Nat) :
      Built (circuit.refuseWrites address count).2
  | stall {circuit : Circuit} (built : Built circuit) (polls : Nat) : Built (circuit.stall polls)
  | loseArbitration {circuit : Circuit} (built : Built circuit) (commands : Nat) :
      Built (circuit.loseArbitration commands)
  | carry {circuit : Circuit} (built : Built circuit) (batch : Batch) :
      Built (circuit.carry batch).2

theorem carry_lasting (circuit : Circuit) (batch : Batch) :
    circuit.Lasting (circuit.carry batch).2 := by
  unfold carry
  split
  · exact .refl circuit
  · exact perform_lasting batch.operations circuit

theorem refuseWrites_lasting (circuit : Circuit) (address : UInt8) (count : Nat) :
    circuit.Lasting (circuit.refuseWrites address count).2 :=
  ⟨rfl, rfl, fun other => shape?_visit circuit address other _ fun _ => rfl⟩

theorem attach_shape? (circuit : Circuit) (address other : UInt8) (slave : Slave) :
    (circuit.attach address slave).shape? other =
      if address = other then some slave.shape else circuit.shape? other := by
  unfold shape? slave? attach
  rw [Table.get?_insert]
  split <;> rfl

namespace Built

variable {circuit : Circuit}

/-- A transfer is never in progress, for commands complete at once. -/
theorem progress (built : circuit.Built) : circuit.status.transferInProgress = false := by
  induction built with
  | ofNode node => rfl
  | attach _ address slave sound induction => exact induction
  | refuseWrites _ address count induction => exact induction
  | stall _ polls induction => exact induction
  | loseArbitration _ commands induction => exact induction
  | carry _ batch induction => exact (carry_lasting _ batch).progress.trans induction

private theorem sound_shape (built : circuit.Built) (address : UInt8) :
    circuit.shape? address = none ∨ circuit.shape? address = some Slave.pages.shape ∨
      circuit.shape? address = some Slave.flat.shape := by
  induction built with
  | ofNode node => exact .inl rfl
  | attach _ attached slave sound induction =>
      rw [attach_shape?]
      split
      · rcases sound with shape | shape
        · exact .inr (.inl (congrArg some shape))
        · exact .inr (.inr (congrArg some shape))
      · exact induction
  | refuseWrites _ told count induction =>
      rwa [(refuseWrites_lasting _ told count).shape]
  | stall _ polls induction => exact induction
  | loseArbitration _ commands induction => exact induction
  | carry _ batch induction => rwa [(carry_lasting _ batch).shape]

theorem sound (built : circuit.Built) {address : UInt8} {slave : Slave}
    (attached : circuit.slave? address = some slave) : slave.Sound := by
  have known : circuit.shape? address = some slave.shape :=
    congrArg (Option.map Slave.shape) attached
  rcases built.sound_shape address with none | paged | flat
  · rw [known] at none
    cases none
  · exact .inl (Option.some.inj (known.symm.trans paged))
  · exact .inr (Option.some.inj (known.symm.trans flat))

end Built

end Circuit

namespace Slave

variable {slave : Slave}

theorem Sound.paged_shape (sound : slave.Sound) (paged : slave.paged = true) :
    slave.shape = (true, 0x10000) := by
  rcases sound with shape | shape
  · rw [shape]
    exact Prod.ext rfl Array.size_replicate
  · have flat : slave.paged = false := congrArg Prod.fst shape
    rw [paged] at flat
    cases flat

theorem Sound.flat_shape (sound : slave.Sound) (flat : slave.paged = false) :
    slave.shape = (false, 0x100) := by
  rcases sound with shape | shape
  · have paged : slave.paged = true := congrArg Prod.fst shape
    rw [flat] at paged
    cases paged
  · rw [shape]
    exact Prod.ext rfl Array.size_replicate

theorem preload_shape (slave : Slave) (register : UInt16) (value : UInt8) :
    (slave.preload register value).shape = slave.shape :=
  Prod.ext rfl Array.size_setIfInBounds

theorem get_preload (build : slave.shape = (true, 0x10000)) (register other : UInt16)
    (value : UInt8) :
    (slave.preload register value).get other =
      if register = other then value else slave.get other := by
  have size : slave.memory.size = 0x10000 := congrArg Prod.snd build
  have own (any : UInt16) : any.toNat % 0x10000 = any.toNat := Nat.mod_eq_of_lt any.toNat_lt
  have inside : register.toNat < slave.memory.size := size ▸ register.toNat_lt
  simp only [get, cellOf, preload, Array.size_setIfInBounds, Array.getElem?_setIfInBounds, size,
    own, UInt16.toNat_inj]
  split
  · rw [if_pos (size ▸ inside)]
    rfl
  · rfl

theorem get_zeroed (paged : Bool) (size : Nat) (register : UInt16) :
    (zeroed paged size).get register = 0 := by
  rw [get, zeroed, Array.getElem?_replicate]
  split <;> rfl

theorem get_pages (register : UInt16) : pages.get register = 0 :=
  get_zeroed true 0x10000 register

end Slave

end ClockBoard.Simulation
