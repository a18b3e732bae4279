import ClockBoard.Proofs.Handle.Errand
import ClockBoard.Proofs.Layout.Exact

/-!
Records kept in registers of a slave. The byte that a register holds becomes a record by the fields
of its layout, and a record becomes the byte that is put there.

The main statement is that all layouts are exact: those of words bring back every record, and every
word up to its undeclared bits, and those of registers bring back a record from the slave that it
was written to.
-/

namespace ClockBoard

open ClockBoard.Layout ClockBoard.Link ClockBoard.Simulation

variable {α : Type} {bus : Bus} {handle : Handle} {board : Board Circuit} {file : ByteFile}
  {placed : Layout.Placed α} {record : α} {byte declared : UInt8}

/-! ## Bytes -/

namespace Layout

variable {layout : Layout α}

theorem unpack_byte (single : layout.bytes = 1) (byte : UInt8) :
    layout.unpack [byte] = .ok (layout.decode byte.toNat) := by
  simp [unpack, checkSize, ofBytes, single, bind, Except.bind, pure, Except.pure]

theorem pack_byte (single : layout.bytes = 1) (record : α) :
    layout.pack record 1 = .ok [UInt8.ofNat (layout.encode record)] := by
  simp [pack, checkSize, bytesOf, single, bind, Except.bind, pure, Except.pure]

theorem Lawful.pack_decode (lawful : layout.Lawful) (single : layout.bytes = 1)
    (declares : layout.declared = declared.toNat) (byte : UInt8) :
    layout.pack (layout.decode byte.toNat) 1 = .ok [byte &&& declared] := by
  rw [pack_byte single, lawful.encode_decode, declares, ← UInt8.toNat_and, UInt8.ofNat_toNat]

theorem Lawful.unpack_encode (lawful : layout.Lawful) (single : layout.bytes = 1) (record : α) :
    layout.unpack [UInt8.ofNat (layout.encode record)] = .ok record := by
  have small : layout.encode record < 2 ^ 8 := by
    have within := lawful.encode_lt record
    rwa [single] at within
  rw [unpack_byte single, UInt8.toNat_ofNat_of_lt' small, lawful.decode_encode]

end Layout

/-! ## Registers -/

theorem Handle.run_bind_ok {β : Type} {action : Handle.Action α} {next : α → Handle.Action β}
    {value : α} {later : Board Circuit}
    (ran : board.run (action.run.carryOut (Handle.carry bus false)) = (.ok value, later)) :
    board.run ((action >>= next).run.carryOut (Handle.carry bus false)) =
      later.run ((next value).run.carryOut (Handle.carry bus false)) := by
  rw [Board.run, Routine.run_carryOut] at ran
  rw [Board.run, Board.run, Routine.run_carryOut, Routine.run_carryOut]
  exact Routine.run_bind_ok ran

namespace Bus.Tends

theorem writeLayout (tends : bus.Tends handle board file)
    (packed : placed.layout.pack record 1 = .ok [byte]) :
    let ran := board.run ((handle.writeLayout placed record).run.carryOut (Handle.carry bus false))
    ran.1 = .ok () ∧ bus.Tends handle ran.2
      ((file.set (placed.register, byte)).pointTo (placed.register + 1)) := by
  have asked : (handle.writeLayout placed record).run.carryOut (Handle.carry bus false) =
      (bus.writeArray handle.address placed.register [byte] true).run := by
    rw [Handle.writeLayout, packed]
    exact Routine.bind_done _
  rcases tends.put placed.register byte with ⟨went, still, _⟩
  rw [asked]
  exact ⟨went, still⟩

theorem readLayout (tends : bus.Tends handle board file)
    (unpacked : placed.layout.unpack [file.cells placed.register] = .ok record) :
    (board.run ((handle.readLayout placed).run.carryOut (Handle.carry bus false))).1 =
      .ok record := by
  have asked : board.run ((handle.readLayout placed).run.carryOut (Handle.carry bus false)) = _ :=
    Handle.run_ask_hold bus _ _ board
  have looked := (tends.look placed.register).1
  rw [asked]
  simp only [looked]
  change Handle.fitted (placed.layout.unpack [file.cells placed.register]) = _
  rw [unpacked]
  rfl

end Bus.Tends

/-- Whether a layout of a register fits its byte but for the bits that are not declared, and reads
back what it wrote. -/
structure Layout.Placed.Kept (placed : Layout.Placed α) (declared : UInt8) : Prop where
  declares : placed.layout.declared = declared.toNat
  pack_unpack : ∀ byte, ∃ record, placed.layout.unpack [byte] = .ok record ∧
    placed.layout.pack record 1 = .ok [byte &&& declared]
  readLayout_writeLayout : ∀ (bus : Bus) (handle : Handle) (board : Board Circuit)
    (file : ByteFile) (record : α), bus.Tends handle board file →
      let work : Handle.Action α := do
        handle.writeLayout placed record
        handle.readLayout placed
      (board.run (work.run.carryOut (Handle.carry bus false))).1 = .ok record

theorem Layout.Lawful.kept_of_declared (lawful : placed.layout.Lawful)
    (single : placed.layout.bytes = 1) (declares : placed.layout.declared = declared.toNat) :
    placed.Kept declared := by
  refine ⟨declares, ?_, ?_⟩
  · intro byte
    exact ⟨_, unpack_byte single byte, lawful.pack_decode single declares byte⟩
  · intro bus handle board file record tends work
    rcases tends.writeLayout (pack_byte single record) with ⟨went, still⟩
    have held : (file.set (placed.register, UInt8.ofNat (placed.layout.encode record))).cells
        placed.register = UInt8.ofNat (placed.layout.encode record) := Function.update_self _ _ _
    have unpacked := lawful.unpack_encode single record
    rw [← held] at unpacked
    rw [Handle.run_bind_ok (Prod.ext went rfl)]
    exact still.readLayout unpacked

/-- All layouts bring back what they were given, up to the bits that no field claims. -/
theorem layouts_exact :
    Core.Command.layout.Exact 0xF9 ∧ Core.Status.layout.Exact 0xE3 ∧
      Core.Control.layout.Exact 0xC0 ∧ Wide16.layout.Exact 0x8FF1 ∧
      Wide32.layout.Exact 0xFFFFFFFF ∧ Chip.MonitoringType.placed.Kept 0x7C ∧
      Chip.StatusControl.placed.Kept 0xFF :=
  ⟨Core.Command.lawful.exact_of_declared rfl, Core.Status.lawful.exact_of_declared rfl,
    Core.Control.lawful.exact_of_declared rfl, Wide16.lawful.exact_of_declared rfl,
    Wide32.lawful.exact_of_declared rfl, Chip.MonitoringType.lawful.kept_of_declared rfl rfl,
    Chip.StatusControl.lawful.kept_of_declared rfl rfl⟩

theorem layouts_exact_fresh :
    let bus : Bus := { node := "i2c", config := {}, slaves := .empty }
    let board := Board.ofTransport ((Circuit.ofNode "i2c").attach 0x51 .flat)
    let record : Chip.StatusControl := ⟨true, false, true, true, false, false, true, false⟩
    let work : Handle.Action Chip.StatusControl := do
      Chip.Sfp.diagnosticsPage.writeLayout Chip.StatusControl.placed record
      Chip.Sfp.diagnosticsPage.readLayout Chip.StatusControl.placed
    (board.run (work.run.carryOut (Handle.carry bus false))).1 = .ok record := by
  intro bus board record work
  have offers : bus.Offers Chip.Sfp.diagnosticsPage Chip.StatusControl.placed.register board 0 :=
    .fresh (by decide) (.inr (by decide))
  rcases offers.tends with ⟨file, tends, _⟩
  rcases layouts_exact with ⟨_, _, _, _, _, _, kept⟩
  exact kept.readLayout_writeLayout bus Chip.Sfp.diagnosticsPage board file record tends

end ClockBoard
