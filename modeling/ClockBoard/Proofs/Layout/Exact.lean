import ClockBoard.Chip.Sfp
import ClockBoard.Layout.Wide
import ClockBoard.Proofs.Core.Word

/-!
The layouts of the registers of a module, and two that are wider than any register. Like those of
the words of a core they are lawful, so that records and words stand for each other, through the
bytes as well as through the fields.
-/

namespace ClockBoard

namespace Layout

variable {α : Type} {layout : Layout α} {declared : UInt32}

/-- Whether records and words stand for each other, up to the bits of a word that are not declared,
and all of them pass through bytes without failing. -/
structure Exact (layout : Layout α) (declared : UInt32) : Prop where
  declares : layout.declared = declared.toNat
  serialize : ∀ record, layout.serialize record = .ok (layout.toWord record)
  deserialize : ∀ word, layout.deserialize word = .ok (layout.ofWord word)
  ofWord_toWord : ∀ record, layout.ofWord (layout.toWord record) = record
  toWord_and : ∀ record, layout.toWord record &&& declared = layout.toWord record
  toWord_ofWord : ∀ word, layout.toWord (layout.ofWord word) = word &&& declared
  ofWord_congr : ∀ one other, one &&& declared = other &&& declared →
    layout.ofWord one = layout.ofWord other

theorem Lawful.exact_of_declared (lawful : layout.Lawful)
    (declares : layout.declared = declared.toNat) : layout.Exact declared := by
  have back (word : UInt32) : layout.toWord (layout.ofWord word) = word &&& declared := by
    apply UInt32.toNat_inj.mp
    rw [lawful.toNat_toWord, ofWord, lawful.encode_decode, declares, UInt32.toNat_and]
  refine ⟨declares, lawful.serialize, lawful.deserialize, lawful.ofWord_toWord, ?_, back, ?_⟩
  · intro record
    rw [← back, lawful.ofWord_toWord]
  · intro one other same
    rw [← lawful.ofWord_toWord (layout.ofWord one), back, same, ← back, lawful.ofWord_toWord]

end Layout

open Layout

/-! ## Registers of a module -/

namespace Chip

theorem MonitoringType.lawful : MonitoringType.placed.layout.Lawful where
  bytes := by decide
  fields := by simp [placed]
  faithful := by simp [placed]
  apart := by simp [placed, Field.apart_iff]
  ext one other same := by
    cases one
    cases other
    simpa [placed] using same

theorem StatusControl.lawful : StatusControl.placed.layout.Lawful where
  bytes := by decide
  fields := by simp [placed]
  faithful := by simp [placed]
  apart := by simp [placed, Field.apart_iff]
  ext one other same := by
    cases one
    cases other
    simpa [placed] using same

end Chip

/-! ## Wide layouts -/

theorem Wide16.lawful : Wide16.layout.Lawful where
  bytes := by decide
  fields := by simp [layout]
  faithful := by
    have small (value : UInt8) : value.toNat < 256 := value.toNat_lt
    simp only [layout, List.forall_mem_cons]
    refine ⟨Field.faithful_flag fun _ _ => rfl, ?_, Field.faithful_flag fun _ _ => rfl, nofun⟩
    simp [Field.faithful_iff, Field.capacity, small]
  apart := by simp [layout, Field.apart_iff]
  ext one other same := by
    cases one
    cases other
    simpa [layout, UInt8.toNat_inj] using same

theorem Wide32.lawful : Wide32.layout.Lawful where
  bytes := by decide
  fields := by simp [layout]
  faithful := by
    have small (value : UInt8) : value.toNat < 256 := value.toNat_lt
    have smallHalf (value : UInt16) : value.toNat < 65536 := value.toNat_lt
    simp [layout, Field.faithful_iff, Field.capacity, small, smallHalf]
  apart := by simp [layout, Field.apart_iff]
  ext one other same := by
    cases one
    cases other
    simpa [layout, UInt8.toNat_inj, UInt16.toNat_inj] using same

end ClockBoard
