import ClockBoard.Link.Board
import ClockBoard.Proofs.Routine.Possible
import ClockBoard.Proofs.Simulation.Toll

/-!
What may become of a routine that reaches a circuit, when all that is known about the circuit is
what it is like when calm. How many things are still to go wrong is left open, and so is which
batches fail on their way; the toll tells what did go wrong.

The main statement says that a run on a board, whatever transport has the circuit below it, is one
of these possible runs.
-/

namespace ClockBoard.Simulation

open ClockBoard.Core ClockBoard.Link

/-- What may become of a batch: it fails on its way, or names a register that the circuit does not
have, or is carried out by a circuit that is like the given one but for its counts. -/
inductive Exchanged (operations : List Operation) (before : Circuit) :
    Except Link.Error (List UInt32) → Circuit → Toll → Prop
  | failed (error : Link.Error) :
      Exchanged operations before (.error error) before (.failure operations)
  | unknown (operation : Operation) (named : operation ∈ operations)
      (strange : Register.ofPath? before.node operation.register = none) :
      Exchanged operations before (.error (.missingRegister operation.register)) before 0
  | carried (actual : Circuit) (toll : Toll) (alike : actual.calm = before)
      (settles : actual.Settles toll (Circuit.perform operations actual).2) :
      Exchanged operations before (.ok (Circuit.perform operations actual).1)
        (Circuit.perform operations actual).2.calm toll

def Answered : Service Link.interface Circuit Toll
  | .exchange operations, before, answer, after, toll =>
      Exchanged operations before answer after toll
  | .note _, before, _, after, toll => after = before ∧ toll = 0

/-- Whether a routine that meets a calm circuit may end with a result, at the cost of a toll. -/
abbrev Runs {α : Type} (routine : Routine Link.interface α) (before : Circuit) (result : α)
    (after : Circuit) (toll : Toll) : Prop :=
  routine.Possible Answered before result after toll

theorem runs_lasting {α : Type} {routine : Routine Link.interface α} {before after : Circuit}
    {result : α} {toll : Toll} (runs : Runs routine before result after toll) :
    before.Lasting after := by
  refine runs.keeps before.Lasting ?_ (.refl before)
  intro request world answer later toll answered kept
  cases request with
  | exchange operations =>
      cases answered with
      | failed _ => exact kept
      | unknown _ _ _ => exact kept
      | carried actual _ alike _ =>
          subst alike
          have lasting := Circuit.perform_lasting operations actual
          refine kept.trans ⟨lasting.node, lasting.progress, ?_⟩
          intro address
          rw [Circuit.calm_shape?, Circuit.calm_shape?, lasting.shape]
  | note event =>
      rcases answered with ⟨rfl, _⟩
      exact kept

/-- A transport with a circuit below it. `Spends` is what can be said about the toll of a run from
the transport itself. -/
structure Hosting (σ : Type) [Transport σ] where
  circuit : σ → Circuit
  Spends : σ → Toll → σ → Prop
  spends_zero : ∀ transport, Spends transport 0 transport
  spends_add : ∀ {before middle after : σ} {first rest : Toll}, Spends before first middle →
    Spends middle rest after → Spends before (first + rest) after
  carries : ∀ (batch : Batch) (transport : σ), ∃ toll,
    Exchanged batch.operations (circuit transport).calm
      ((dispatch batch transport).1.map fun response => response.valuesFor batch)
      (circuit (dispatch batch transport).2).calm toll ∧
    Spends transport toll (dispatch batch transport).2

namespace Hosting

variable {σ α : Type} [Transport σ]

theorem serve_answered (host : Hosting σ) (request : Link.interface.Request) (board : Board σ)
    (free : board.access = .free) :
    ∃ toll, Answered request (host.circuit board.transport).calm (board.serve request).1
        (host.circuit (board.serve request).2.transport).calm toll ∧
      host.Spends board.transport toll (board.serve request).2.transport ∧
      (board.serve request).2.access = .free := by
  rcases board with ⟨transport, access, staged, events⟩
  cases free
  cases request with
  | exchange operations =>
      rcases host.carries ⟨staged, operations⟩ transport with ⟨toll, exchanged, spends⟩
      exact ⟨toll, exchanged, spends, rfl⟩
  | note event => exact ⟨0, ⟨rfl, rfl⟩, host.spends_zero transport, rfl⟩

/-- A run on a board is a possible run of the circuit below. -/
theorem run_runs (host : Hosting σ) (routine : Routine Link.interface α) (board : Board σ)
    (free : board.access = .free) :
    ∃ toll, Runs routine (host.circuit board.transport).calm (board.run routine).1
        (host.circuit (board.run routine).2.transport).calm toll ∧
      host.Spends board.transport toll (board.run routine).2.transport ∧
      (board.run routine).2.access = .free := by
  induction routine generalizing board with
  | done value => exact ⟨0, ⟨rfl, rfl, rfl⟩, host.spends_zero board.transport, free⟩
  | ask request next induction =>
      rcases host.serve_answered request board free with ⟨first, answered, spent, reached⟩
      rcases induction (board.serve request).1 (board.serve request).2 reached with
        ⟨rest, continued, spends, stays⟩
      exact ⟨first + rest, ⟨_, _, first, rest, answered, continued, rfl⟩,
        host.spends_add spent spends, stays⟩

end Hosting

/-! ## A bare circuit -/

theorem Circuit.carry_exchanged (batch : Batch) (circuit : Circuit) :
    ∃ toll, Exchanged batch.operations circuit.calm
        ((circuit.carry batch).1.map fun response => response.valuesFor batch)
        (circuit.carry batch).2.calm toll ∧
      circuit.Settles toll (circuit.carry batch).2 := by
  unfold carry
  split
  · rename_i register unknown
    have member := List.mem_of_find?_eq_some unknown
    have strange := List.find?_some unknown
    rcases List.mem_map.mp member with ⟨operation, named, rfl⟩
    have missing : Register.ofPath? circuit.node operation.register = none := by
      simpa using strange
    exact ⟨0, .unknown operation named missing, Settles.refl circuit⟩
  · rcases (perform_wanes batch.operations circuit).settles with ⟨toll, settles⟩
    refine ⟨toll, ?_, settles⟩
    simpa [Except.map, Batch.respond, Response.valuesFor] using
      Exchanged.carried circuit toll rfl settles

def Circuit.hosting : Hosting Circuit where
  circuit := id
  Spends before toll after := before.Settles toll after
  spends_zero := Settles.refl
  spends_add := Settles.trans
  carries := carry_exchanged

end ClockBoard.Simulation
