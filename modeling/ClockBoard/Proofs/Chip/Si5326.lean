import ClockBoard.Chip.Si5326
import ClockBoard.Proofs.Chip.Writer

/-!
What writing a register of a chip without pages may come to. A write past the registers of the chip
fails before anything is done.
-/

namespace ClockBoard.Chip.Si5326

open ClockBoard.Link ClockBoard.Simulation ClockBoard.Bus

variable {bus : Bus} {before after : Circuit} {toll : Toll}

theorem joinBytes_zero_lowByte {address : UInt16} (small : address ≤ 0xFF) :
    joinBytes 0 (lowByte address) = address := by
  have bound : address.toNat ≤ 0xFF := UInt16.le_iff_toNat_le.mp small
  apply UInt16.toNat_inj.mp
  rw [toNat_joinBytes, toNat_lowByte, Nat.mod_eq_of_lt (by omega)]
  exact Nat.zero_add _

theorem runs_writeRegister {chip : Si5326} {slave : Slave} {address : UInt16} {value : UInt8}
    {result : Except Error Unit} (node : before.node = bus.node) (flat : slave.paged = false)
    (small : address ≤ 0xFF) (attached : before.slave? chip.handle.address = some slave)
    (possible : (chip.writeRegister address value).run.Possible (Handle.Served bus) before result
      after toll) :
    bus.Lands chip.handle.address [(address, value)] before slave result after toll := by
  unfold writeRegister at possible
  rw [if_pos small] at possible
  rcases (possible_lift _ _).mp possible with ⟨answer, held, rfl⟩
  have runs := (Handle.possible_hold _ _).mp held
  have target : (slave.pointTo (lowByte address)).current = address := by
    simp [Slave.current, Slave.pointTo, flat, joinBytes_zero_lowByte small]
  have lands := runs_writeArray node chip.handle.inRange attached runs
  rw [target] at lands
  cases answer with
  | ok _ => exact lands
  | error error => exact lands

theorem possible_writeRegister_past {chip : Si5326} {address : UInt16} {value : UInt8}
    {result : Except Error Unit} (past : ¬ address ≤ 0xFF)
    (possible : (chip.writeRegister address value).run.Possible (Handle.Served bus) before result
      after toll) :
    result = .error (.addressOutOfRange address) ∧ after = before ∧ toll = 0 := by
  unfold writeRegister at possible
  rwa [if_neg past] at possible

end ClockBoard.Chip.Si5326
