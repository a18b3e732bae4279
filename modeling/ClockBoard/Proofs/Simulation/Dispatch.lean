import ClockBoard.Proofs.Core.Word
import ClockBoard.Proofs.Link.InTurn
import ClockBoard.Proofs.Simulation.Execution

/-!
Batches on a simulated circuit. The words of its registers are packed and unpacked on the way, so
that each access could fail; but no layout of the core does.

The main statement says of circuits and of register files that they carry out a batch as a whole or
not at all.
-/

namespace ClockBoard.Simulation.Circuit

open ClockBoard.Core ClockBoard.Link

/-! ## Accesses that could fail -/

def showStatus (circuit : Circuit) : Status × Circuit :=
  if circuit.stalls > 0 then
    ({ circuit.status with transferInProgress := true },
      { circuit with stalls := circuit.stalls - 1 })
  else
    (circuit.status, circuit)

def packed {α : Type} (layout : Layout α) (record : α) (circuit : Circuit) :
    Except Error (Option UInt32) × Circuit :=
  match layout.serialize record with
  | .ok word => (.ok (some word), circuit)
  | .error _ => (.error .packing, circuit)

def unpacked {α : Type} (layout : Layout α) (word : UInt32) (circuit : Circuit)
    (next : α → Circuit) : Except Error (Option UInt32) × Circuit :=
  match layout.deserialize word with
  | .ok record => (.ok none, next record)
  | .error _ => (.error .packing, circuit)

/-- The register that a path means. What is none of the others is the command register. -/
def meant (circuit : Circuit) (path : String) : Register :=
  (Register.ofPath? circuit.node path).getD .command

def take : Step Circuit
  | .write path value, circuit =>
      match circuit.meant path with
      | .prescaleLow => (.ok none, { circuit with prescaleLow := value.toUInt8 })
      | .prescaleHigh => (.ok none, { circuit with prescaleHigh := value.toUInt8 })
      | .control =>
          circuit.unpacked Control.layout value fun control => { circuit with control }
      | .data => (.ok none, { circuit with tx := value.toUInt8 })
      | .command => circuit.unpacked Command.layout value circuit.execute
  | .read path, circuit =>
      match circuit.meant path with
      | .prescaleLow => (.ok (some circuit.prescaleLow.toUInt32), circuit)
      | .prescaleHigh => (.ok (some circuit.prescaleHigh.toUInt32), circuit)
      | .control => circuit.packed Control.layout circuit.control
      | .data => (.ok (some circuit.rx.toUInt32), circuit)
      | .command => circuit.showStatus.2.packed Status.layout circuit.showStatus.1

/-! ## None does -/

theorem packed_ok {α : Type} {layout : Layout α} (fits : layout.Fits) (record : α)
    (circuit : Circuit) :
    circuit.packed layout record = (.ok (some (layout.toWord record)), circuit) := by
  rw [packed, fits.serialize]

theorem unpacked_ok {α : Type} {layout : Layout α} (fits : layout.Fits) (word : UInt32)
    (circuit : Circuit) (next : α → Circuit) :
    circuit.unpacked layout word next = (.ok none, next (layout.ofWord word)) := by
  rw [unpacked, fits.deserialize]

theorem readStatus_eq (circuit : Circuit) :
    circuit.readStatus =
      (Status.layout.toWord circuit.showStatus.1, circuit.showStatus.2) := by
  unfold readStatus showStatus
  split <;> rfl

theorem take_write (path : String) (value : UInt32) (circuit : Circuit) :
    take (.write path value) circuit = (.ok none, circuit.write value (circuit.meant path)) := by
  rw [take]
  cases circuit.meant path with
  | control => exact unpacked_ok Control.lawful.toFits _ _ _
  | command => exact unpacked_ok Command.lawful.toFits _ _ _
  | _ => rfl

theorem take_read (path : String) (circuit : Circuit) :
    take (.read path) circuit =
      (.ok (some (circuit.read (circuit.meant path)).1),
        (circuit.read (circuit.meant path)).2) := by
  rw [take]
  cases circuit.meant path with
  | control => exact packed_ok Control.lawful.toFits _ _
  | command =>
      change _ = (Except.ok (some circuit.readStatus.1), circuit.readStatus.2)
      rw [readStatus_eq]
      exact packed_ok Status.lawful.toFits _ _
  | _ => rfl

theorem take_valued : Step.Valued take := by
  intro operation circuit value? later taken
  cases operation with
  | write path value =>
      rw [take_write] at taken
      cases taken
      rfl
  | read path =>
      rw [take_read] at taken
      cases taken
      rfl

/-! ## Batches -/

def Has (path : String) (circuit : Circuit) : Prop :=
  ∃ register : Register, register.path circuit.node = path

theorem isSome_ofPath?_iff (path : String) (circuit : Circuit) :
    (Register.ofPath? circuit.node path).isSome = true ↔ Has path circuit := by
  constructor
  · intro found
    rcases Option.isSome_iff_exists.mp found with ⟨register, named⟩
    rw [Register.ofPath?] at named
    exact ⟨register, by simpa using List.find?_some named⟩
  · rintro ⟨register, rfl⟩
    rw [Register.ofPath?_path]
    rfl

theorem takeAll_take {operations : List Operation} {circuit : Circuit}
    (known : ∀ operation ∈ operations,
      (Register.ofPath? circuit.node operation.register).isSome = true) :
    Step.takeAll take operations circuit =
      (.ok (perform operations circuit).1, (perform operations circuit).2) := by
  induction operations generalizing circuit with
  | nil => rfl
  | cons operation rest induction =>
      -- The node of the circuit stays, so the names of the others are still known.
      have later : ∀ circuit', circuit.Lasting circuit' →
          ∀ other ∈ rest, (Register.ofPath? circuit'.node other.register).isSome = true := by
        intro circuit' lasting other member
        rw [lasting.node]
        exact known other (List.mem_cons_of_mem _ member)
      rcases Option.isSome_iff_exists.mp (known operation List.mem_cons_self) with
        ⟨register, named⟩
      have isMeant : circuit.meant operation.register = register := by
        rw [meant, named, Option.getD_some]
      cases operation with
      | write path value =>
          change circuit.meant path = register at isMeant
          have taken := take_write path value circuit
          rw [isMeant] at taken
          have lasting := write_lasting circuit value register
          have others := Step.takeAll_cons_ok taken (induction (later _ lasting))
          simp only [perform, named]
          exact others
      | read path =>
          change circuit.meant path = register at isMeant
          have taken := take_read path circuit
          rw [isMeant] at taken
          have lasting := read_lasting circuit register
          have others := Step.takeAll_cons_ok taken (induction (later _ lasting))
          simp only [perform, named]
          exact others

theorem allOrNothing : AllOrNothing Circuit Has take (fun _ circuit => circuit) := by
  apply AllOrNothing.of_check
    (fun path circuit => (Register.ofPath? circuit.node path).isSome) take_valued
  · exact isSome_ofPath?_iff
  · intro batch circuit register unknown
    simp only [dispatch, carry, unknown]
  · intro batch circuit known
    have passed : batch.firstUnknown?
        (fun path => (Register.ofPath? circuit.node path).isSome) = none :=
      Batch.firstUnknown?_eq_none.mpr known
    refine ⟨_, _, takeAll_take known, ?_⟩
    simp only [dispatch, carry, passed]

end ClockBoard.Simulation.Circuit

namespace ClockBoard.Link

open ClockBoard.Simulation

/-- Dispatch is all or nothing, on a register file and on a simulated circuit. -/
theorem dispatch_allOrNothing :
    AllOrNothing RegisterFile RegisterFile.Has RegisterFile.take RegisterFile.close ∧
      AllOrNothing Circuit Circuit.Has Circuit.take fun _ circuit => circuit :=
  ⟨RegisterFile.allOrNothing, Circuit.allOrNothing⟩

end ClockBoard.Link
