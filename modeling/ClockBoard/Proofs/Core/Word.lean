import ClockBoard.Core.Word
import ClockBoard.Proofs.Layout.Lawful

/-!
The words that a core understands stand for their records.
-/

namespace ClockBoard.Core

open ClockBoard.Layout

theorem Command.lawful : Command.layout.Lawful where
  bytes := by decide
  fields := by simp [layout]
  faithful := by simp [layout]
  apart := by simp [layout, Field.apart_iff]
  ext one other same := by
    cases one
    cases other
    simpa [layout] using same

theorem Status.lawful : Status.layout.Lawful where
  bytes := by decide
  fields := by simp [layout]
  faithful := by simp [layout]
  apart := by simp [layout, Field.apart_iff]
  ext one other same := by
    cases one
    cases other
    simpa [layout] using same

theorem Control.lawful : Control.layout.Lawful where
  bytes := by decide
  fields := by simp [layout]
  faithful := by simp [layout]
  apart := by simp [layout, Field.apart_iff]
  ext one other same := by
    cases one
    cases other
    simpa [layout] using same

end ClockBoard.Core
