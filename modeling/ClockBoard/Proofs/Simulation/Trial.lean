import ClockBoard.Proofs.Simulation.Runs

/-!
A trial puts a circuit through troubles while software is at work on it. Before each batch the
circuit may be told to stall, to lose arbitration or to refuse register writes, and the batch
itself may fail on its way.

The main statement says that a run on a trial is a possible run of the circuit, whose toll lists
the batches that failed; once the troubles are over, it is the run of a bare circuit.
-/

namespace ClockBoard.Simulation

open ClockBoard.Core ClockBoard.Link

/-- What may befall a circuit just before a batch. A batch that fails is not carried out. -/
inductive Trouble
  | stall (polls : Nat)
  | loseArbitration (commands : Nat)
  | refuseWrites (address : UInt8) (count : Nat)
  | fail (error : Link.Error)

structure Trial where
  circuit : Circuit
  /-- The troubles that come before each batch, in order. Batches count from zero. -/
  troubles : Nat → List Trouble
  /-- The number of batches that have passed. -/
  passed : Nat
  /-- The batches that failed, in order. -/
  failed : List (List Operation)

namespace Trouble

def befall (circuit : Circuit) : Trouble → Circuit
  | .stall polls => circuit.stall polls
  | .loseArbitration commands => circuit.loseArbitration commands
  | .refuseWrites address count => (circuit.refuseWrites address count).2
  | .fail _ => circuit

def failure? : Trouble → Option Link.Error
  | .fail error => some error
  | _ => none

theorem calm_refuseWrites (circuit : Circuit) (address : UInt8) (count : Nat) :
    (circuit.refuseWrites address count).2.calm = circuit.calm := by
  unfold Circuit.refuseWrites
  rw [Table.visit_eq]
  cases found : circuit.slaves.get? address with
  | none => rfl
  | some slave =>
      have kept : (circuit.slaves.insert address (slave.refuseWrites count)).map Slave.calm =
          circuit.slaves.map Slave.calm := by
        rw [Table.map_insert]
        apply Table.insert_of_get?
        rw [Table.get?_map, found]
        rfl
      simp only [Circuit.calm, kept]

@[simp] theorem calm_befall (circuit : Circuit) (trouble : Trouble) :
    (trouble.befall circuit).calm = circuit.calm := by
  cases trouble with
  | refuseWrites address count => exact calm_refuseWrites circuit address count
  | _ => rfl

theorem calm_foldl_befall (troubles : List Trouble) (circuit : Circuit) :
    (troubles.foldl befall circuit).calm = circuit.calm := by
  induction troubles generalizing circuit with
  | nil => rfl
  | cons trouble rest induction => exact (induction _).trans (calm_befall circuit trouble)

end Trouble

namespace Trial

def on (circuit : Circuit) (troubles : Nat → List Trouble) : Trial where
  circuit
  troubles
  passed := 0
  failed := []

/-- The circuit after the troubles that come before the next batch. -/
def shaken (trial : Trial) : Circuit :=
  (trial.troubles trial.passed).foldl Trouble.befall trial.circuit

def failure? (trial : Trial) : Option Link.Error :=
  (trial.troubles trial.passed).findSome? Trouble.failure?

def carry (batch : Batch) (trial : Trial) : Except Error Response × Trial :=
  match trial.failure? with
  | some error =>
      (.error error,
        { trial with
          circuit := trial.shaken
          passed := trial.passed + 1
          failed := trial.failed ++ [batch.operations] })
  | none =>
      ((trial.shaken.carry batch).1,
        { trial with circuit := (trial.shaken.carry batch).2, passed := trial.passed + 1 })

instance : Transport Trial := ⟨carry⟩

def Over (trial : Trial) : Prop :=
  ∀ batch, trial.passed ≤ batch → trial.troubles batch = []

/-- What can be said about the toll of a run on a trial: the batches that failed are recorded, and
once the troubles are over nothing but what the circuit has counted already goes wrong. -/
structure Spends (before : Trial) (toll : Toll) (after : Trial) : Prop where
  troubles : after.troubles = before.troubles
  passed : before.passed ≤ after.passed
  failed : after.failed = before.failed ++ toll.failed
  settles : before.Over → before.circuit.Settles toll after.circuit

theorem Over.later {before after : Trial} (quiet : before.Over)
    (troubles : after.troubles = before.troubles) (passed : before.passed ≤ after.passed) :
    after.Over := by
  intro batch later
  rw [troubles]
  exact quiet batch (Nat.le_trans passed later)

theorem Over.shaken {trial : Trial} (quiet : trial.Over) : trial.shaken = trial.circuit := by
  rw [Trial.shaken, quiet trial.passed (Nat.le_refl _)]
  rfl

theorem Over.failure? {trial : Trial} (quiet : trial.Over) : trial.failure? = none := by
  rw [Trial.failure?, quiet trial.passed (Nat.le_refl _)]
  rfl

theorem Spends.refl (trial : Trial) : trial.Spends 0 trial :=
  ⟨rfl, Nat.le_refl _, (List.append_nil _).symm, fun _ => .refl _⟩

theorem Spends.trans {before middle after : Trial} {first rest : Toll}
    (one : before.Spends first middle) (two : middle.Spends rest after) :
    before.Spends (first + rest) after where
  troubles := two.troubles.trans one.troubles
  passed := Nat.le_trans one.passed two.passed
  failed := by rw [two.failed, one.failed, Toll.failed_add, List.append_assoc]
  settles quiet :=
    (one.settles quiet).trans (two.settles (quiet.later one.troubles one.passed))

theorem carry_exchanged (batch : Batch) (trial : Trial) :
    ∃ toll, Exchanged batch.operations trial.circuit.calm
        ((trial.carry batch).1.map fun response => response.valuesFor batch)
        (trial.carry batch).2.circuit.calm toll ∧
      trial.Spends toll (trial.carry batch).2 := by
  have calm : trial.shaken.calm = trial.circuit.calm := Trouble.calm_foldl_befall _ _
  unfold carry
  cases fails : trial.failure? with
  | some error =>
      refine ⟨.failure batch.operations, ?_, rfl, Nat.le_succ _, rfl, ?_⟩
      · rw [← calm]
        exact .failed error
      · intro quiet
        rw [quiet.failure?] at fails
        cases fails
  | none =>
      rcases Circuit.carry_exchanged batch trial.shaken with ⟨toll, exchanged, settles⟩
      rw [calm] at exchanged
      refine ⟨toll, exchanged, rfl, Nat.le_succ _, ?_, ?_⟩
      · rw [settles.failed, List.append_nil]
      · intro quiet
        simpa [quiet.shaken] using settles

def hosting : Hosting Trial where
  circuit := Trial.circuit
  Spends := Spends
  spends_zero := Spends.refl
  spends_add := Spends.trans
  carries := carry_exchanged

theorem run_troubles {α : Type} (routine : Routine Link.interface α) (board : Board Trial)
    (free : board.access = .free) :
    (board.run routine).2.transport.troubles = board.transport.troubles := by
  rcases hosting.run_runs routine board free with ⟨_, _, spends, _⟩
  exact spends.troubles

end Trial

end ClockBoard.Simulation
