import Mathlib.Algebra.Group.PUnit
import ClockBoard.Link.Board
import ClockBoard.Proofs.Routine.Possible

/-!
A record of what passes between the software and a transport, whatever the transport is and does.

The main statement says that a routine that runs on a board with a record takes one of the courses
that are possible when every answer is: each batch that reaches the transport is recorded with the
values that came back, and one that does not reach it fails.
-/

namespace ClockBoard.Link

/-- A batch that reached the transport, with the values that its reads got. There are none if the
batch failed, or if the response was to another batch. -/
structure Entry where
  operations : List Operation
  values : List UInt32

structure Recorded (σ : Type) where
  device : σ
  entries : List Entry

def valuesOf : Except Error (List UInt32) → List UInt32
  | .ok values => values
  | .error _ => []

def Board.recorded {σ : Type} (board : Board σ) : Board (Recorded σ) where
  transport := { device := board.transport, entries := [] }
  access := board.access
  staged := board.staged
  events := board.events

namespace Recorded

variable {σ α : Type} [Transport σ]

def carry (batch : Batch) : Recorded σ → Except Error Response × Recorded σ
  | ⟨device, entries⟩ =>
      let carried := dispatch batch device
      let answer := carried.1.map fun response => response.valuesFor batch
      (carried.1, ⟨carried.2, entries ++ [⟨batch.operations, valuesOf answer⟩]⟩)

instance : Transport (Recorded σ) := ⟨carry⟩

instance noToll : AddMonoid Unit :=
  PUnit.addCommGroup.toAddGroup.toAddMonoid

def Answered : Service Link.interface (List Entry) Unit
  | .exchange operations, before, answer, after, _ =>
      after = before ++ [⟨operations, valuesOf answer⟩] ∨
        (after = before ∧ ∃ error, answer = .error error)
  | .note _, before, _, after, _ => after = before

theorem serve_answered (request : Link.interface.Request) (board : Board (Recorded σ)) :
    ∃ passed, (board.serve request).2.transport.entries = board.transport.entries ++ passed ∧
      ∀ before, Answered request before (board.serve request).1 (before ++ passed) () := by
  rcases board with ⟨⟨device, entries⟩, access, staged, events⟩
  cases request with
  | note event => exact ⟨[], (List.append_nil _).symm, fun _ => List.append_nil _⟩
  | exchange operations =>
      cases access with
      | free => exact ⟨[_], rfl, fun _ => .inl rfl⟩
      | poisoned =>
          exact ⟨[], (List.append_nil _).symm, fun _ => .inr ⟨List.append_nil _, _, rfl⟩⟩
      | gone =>
          exact ⟨[], (List.append_nil _).symm, fun _ => .inr ⟨List.append_nil _, _, rfl⟩⟩

theorem run_answered (routine : Routine Link.interface α) (board : Board (Recorded σ)) :
    ∃ passed, (board.run routine).2.transport.entries = board.transport.entries ++ passed ∧
      ∀ before, routine.Possible Answered before (board.run routine).1 (before ++ passed) () := by
  induction routine generalizing board with
  | done value => exact ⟨[], (List.append_nil _).symm, fun _ => ⟨rfl, List.append_nil _, rfl⟩⟩
  | ask request next induction =>
      rcases serve_answered request board with ⟨first, recorded, answered⟩
      rcases induction (board.serve request).1 (board.serve request).2 with
        ⟨rest, more, continued⟩
      refine ⟨first ++ rest, ?_, fun before => ?_⟩
      · rw [← List.append_assoc, ← recorded]
        exact more
      · refine ⟨_, before ++ first, (), (), answered before, ?_, rfl⟩
        rw [← List.append_assoc]
        exact continued (before ++ first)

end Recorded

end ClockBoard.Link
