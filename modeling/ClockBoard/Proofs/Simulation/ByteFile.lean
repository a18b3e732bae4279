import Mathlib.Logic.Function.Basic
import ClockBoard.Proofs.Simulation.Storage

/-!
A plain file of 256 byte registers with a pointer, which is all that the bus sees of a slave without
pages. Blocks lie in consecutive registers, and after the last register comes the first.

The main statements say that a slave without pages gives and takes blocks as the plain file does.
-/

namespace ClockBoard.Simulation

@[ext] structure ByteFile where
  cells : UInt8 → UInt8
  pointer : UInt8
  /-- The register writes, in order. -/
  writes : List (UInt16 × UInt8)

namespace ByteFile

def pointTo (file : ByteFile) (pointer : UInt8) : ByteFile :=
  { file with pointer }

def block (file : ByteFile) (register : UInt8) (count : Nat) : List UInt8 :=
  (List.range count).map fun index => file.cells (register + UInt8.ofNat index)

def placed (register : UInt8) (bytes : List UInt8) : List (UInt8 × UInt8) :=
  bytes.mapIdx fun index byte => (register + UInt8.ofNat index, byte)

def set (file : ByteFile) (write : UInt8 × UInt8) : ByteFile :=
  { file with
    cells := Function.update file.cells write.1 write.2
    writes := file.writes ++ [(write.1.toUInt16, write.2)] }

def store (file : ByteFile) (register : UInt8) (bytes : List UInt8) : ByteFile :=
  ((placed register bytes).foldl set file).pointTo (register + UInt8.ofNat bytes.length)

/-! ## Laws -/

theorem placed_cons (register byte : UInt8) (rest : List UInt8) :
    placed register (byte :: rest) = (register, byte) :: placed (register + 1) rest := by
  rw [placed, List.mapIdx_cons]
  apply congrArg₂ List.cons
  · simp
  · simp only [placed, Slave.add_ofNat_succ]

theorem foldl_set_pointTo (writes : List (UInt8 × UInt8)) (file : ByteFile) (pointer : UInt8) :
    writes.foldl set (file.pointTo pointer) = (writes.foldl set file).pointTo pointer := by
  induction writes generalizing file with
  | nil => rfl
  | cons write rest induction => exact induction (file.set write)

theorem store_pointTo (file : ByteFile) (pointer register : UInt8) (bytes : List UInt8) :
    (file.pointTo pointer).store register bytes = file.store register bytes := by
  rw [store, foldl_set_pointTo]
  rfl

theorem store_nil (file : ByteFile) (register : UInt8) :
    file.store register [] = file.pointTo register := by
  simp [store, placed]

theorem store_cons (file : ByteFile) (register byte : UInt8) (rest : List UInt8) :
    file.store register (byte :: rest) =
      ((file.set (register, byte)).pointTo (register + 1)).store (register + 1) rest := by
  simp only [store, placed_cons, List.foldl_cons, List.length_cons, Slave.add_ofNat_succ,
    foldl_set_pointTo]
  rfl

end ByteFile

namespace Slave

/-- What the bus sees of a slave without pages. -/
def file (slave : Slave) : ByteFile where
  cells register := slave.get register.toUInt16
  pointer := slave.pointer
  writes := slave.writes.toList

@[simp] theorem file_pointTo (slave : Slave) (pointer : UInt8) :
    (slave.pointTo pointer).file = slave.file.pointTo pointer := rfl

def Flat (slave : Slave) : Prop :=
  slave.shape = (false, 0x100)

variable {slave : Slave}

theorem Flat.current (flat : slave.Flat) : slave.current = slave.pointer.toUInt16 := by
  have paged : slave.paged = false := congrArg Prod.fst flat
  apply UInt16.toNat_inj.mp
  simp [Slave.current, paged, toNat_joinBytes]

theorem Flat.cell (flat : slave.Flat) (register : UInt8) :
    slave.file.cells register = slave.memory[register.toNat]?.getD 0 := by
  have size : slave.memory.size = 0x100 := congrArg Prod.snd flat
  simp [file, get, cellOf, size]

theorem Flat.load (flat : slave.Flat) :
    slave.load = (slave.file.cells slave.pointer, slave.pointTo (slave.pointer + 1)) := by
  have paged : slave.paged = false := congrArg Prod.fst flat
  simp [Slave.load, atPageRegister, paged, flat.current, flat.cell, pointTo]

theorem Flat.put (flat : slave.Flat) (value : UInt8) :
    (slave.put value).Flat ∧
      (slave.put value).file =
        (slave.file.set (slave.pointer, value)).pointTo (slave.pointer + 1) := by
  have stays : (slave.put value).Flat := by
    simpa [Flat, shape, Slave.put] using flat
  have size : slave.memory.size = 0x100 := congrArg Prod.snd flat
  refine ⟨stays, ?_⟩
  have cells : (slave.put value).file.cells =
      Function.update slave.file.cells slave.pointer value := by
    funext register
    rw [stays.cell, Function.update_apply, flat.cell]
    simp only [Slave.put, flat.current, Array.getElem?_setIfInBounds]
    by_cases same : register = slave.pointer
    · have inside : slave.pointer.toNat < slave.memory.size := size ▸ slave.pointer.toNat_lt
      simp [same, inside]
    · have differs : slave.pointer.toNat ≠ register.toNat := fun equal =>
        same (UInt8.toNat_inj.mp equal).symm
      simp [same, differs]
  have writes : (slave.put value).file.writes =
      slave.file.writes ++ [(slave.pointer.toUInt16, value)] := by
    simp [file, Slave.put, flat.current]
  exact ByteFile.ext cells rfl writes

theorem Flat.loadAll (flat : slave.Flat) (count : Nat) :
    slave.loadAll count =
      (slave.file.block slave.pointer count,
        slave.pointTo (slave.pointer + UInt8.ofNat count)) := by
  rw [loadAll_eq]
  refine Prod.ext ?_ rfl
  apply List.map_congr_left
  intro index _
  have moved : (slave.pointTo (slave.pointer + UInt8.ofNat index)).Flat := flat
  rw [moved.load]
  rfl

theorem Flat.acceptAll (flat : slave.Flat) (bytes : List UInt8) :
    (slave.acceptAll true bytes).file = slave.file.store slave.pointer bytes := by
  induction bytes generalizing slave with
  | nil => exact (ByteFile.store_nil slave.file slave.pointer).symm
  | cons byte rest induction =>
      rcases flat.put byte with ⟨stays, equal⟩
      have taken := induction stays
      rw [equal] at taken
      rw [ByteFile.store_cons]
      exact taken

end Slave

end ClockBoard.Simulation
