import Mathlib.Control.Monad.Basic
import ClockBoard.Proofs.Bus.Absent
import ClockBoard.Proofs.Bus.Usable
import ClockBoard.Proofs.Chip.Writer
import ClockBoard.Proofs.Simulation.Built
import ClockBoard.Proofs.Simulation.ByteFile

/-!
What the users of a bus see of slaves without pages: each slave is a plain file of registers, and an
access to an address that no slave has is not acknowledged.

The main statement is about any accesses one after another, through any handles, on a bus where
nothing is about to go wrong. It compares the results and the slaves with what becomes of plain
files.
-/

namespace ClockBoard

open ClockBoard.Link ClockBoard.Simulation

inductive Handle.Access
  | readRegisters (register : UInt8) (count : Nat)
  | writeRegisters (register : UInt8) (bytes : List UInt8)
  | readRaw (count : Nat)
  | writeRaw (bytes : List UInt8)

namespace Handle

def access (handle : Handle) : Access → Action (List UInt8)
  | .readRegisters register count => handle.readRegisters register count
  | .writeRegisters register bytes => do
      handle.writeRegisters register bytes
      return []
  | .readRaw count => handle.readRaw count
  | .writeRaw bytes => do
      handle.writeRaw bytes
      return []

def accessAll : List (Handle × Access) →
    Routine Handle.interface (List (Except Bus.Error (List UInt8)))
  | [] => return []
  | (handle, access) :: rest => do
      let result ← (handle.access access).run
      let results ← accessAll rest
      return result :: results

end Handle

/-! ## Plain files -/

namespace Simulation

/-- What an access makes of a plain file. The first byte of a raw write is where the others go. -/
def ByteFile.access (file : ByteFile) : Handle.Access → List UInt8 × ByteFile
  | .readRegisters register count =>
      (file.block register count, file.pointTo (register + UInt8.ofNat count))
  | .writeRegisters register bytes => ([], file.store register bytes)
  | .readRaw count =>
      (file.block file.pointer count, file.pointTo (file.pointer + UInt8.ofNat count))
  | .writeRaw [] => ([], file)
  | .writeRaw (register :: bytes) => ([], file.store register bytes)

abbrev Files : Type :=
  UInt8 → Option ByteFile

namespace Files

def access (files : Files) (address : UInt8) (access : Handle.Access) :
    Except Bus.Error (List UInt8) × Files :=
  match files address with
  | none => (.error .noAcknowledge, files)
  | some file =>
      let accessed := file.access access
      (.ok accessed.1, Function.update files address (some accessed.2))

def accessAll (files : Files) :
    List (Handle × Handle.Access) → List (Except Bus.Error (List UInt8)) × Files
  | [] => ([], files)
  | (handle, access) :: rest =>
      let accessed := files.access handle.address access
      let others := accessAll accessed.2 rest
      (accessed.1 :: others.1, others.2)

end Files

namespace Circuit

def files (circuit : Circuit) : Files :=
  fun address => (circuit.slave? address).map Slave.file

@[simp] theorem files_calm (circuit : Circuit) : circuit.calm.files = circuit.files := by
  funext address
  rw [files, calm_slave?, Option.map_map]
  rfl

theorem files_congr {before after : Circuit}
    (same : ∀ address, after.slave? address = before.slave? address) :
    after.files = before.files := by
  funext address
  rw [files, same, files]

theorem Turned.files {before after : Circuit} {address : UInt8} {slave : Slave}
    (turned : before.Turned address slave after) :
    after.files = Function.update before.files address (some slave.file) := by
  funext other
  rw [Circuit.files, turned other, Function.update_apply]
  by_cases same : address = other
  · rw [if_pos same, if_pos same.symm, Option.map_some]
  · rw [if_neg same, if_neg (Ne.symm same), Circuit.files]

def Flat (circuit : Circuit) : Prop :=
  ∀ address slave, circuit.slave? address = some slave → slave.Flat

theorem Lasting.flat {before after : Circuit} (lasting : before.Lasting after)
    (flat : before.Flat) : after.Flat := by
  intro address slave attached
  have shape := lasting.shape address
  rw [shape?, attached, Option.map_some] at shape
  rcases Option.map_eq_some_iff.mp shape.symm with ⟨earlier, there, same⟩
  exact same.symm.trans (flat address earlier there)

end Circuit

end Simulation

namespace Handle

variable {bus : Bus} {handle : Handle} {access : Access} {before after : Circuit} {toll : Toll}
variable {result : Except Bus.Error (List UInt8)}

/-! ## One access -/

theorem possible_access_cases
    (possible : (handle.access access).run.Possible (Served bus) before result after toll) :
    (∃ register count, access = .readRegisters register count ∧
      Runs (bus.readArray handle.address register count).run before result after toll) ∨
    (∃ count, access = .readRaw count ∧
      Runs (bus.readBlock handle.address count).run before result after toll) ∨
    ∃ bytes answer, (∀ file : ByteFile, file.access access = file.access (.writeRaw bytes)) ∧
      Runs (bus.writeBlock handle.address bytes true).run before answer after toll ∧
      result = answer.map fun _ => [] := by
  cases access with
  | readRegisters register count =>
      exact .inl ⟨register, count, rfl, (possible_hold _ _).mp possible⟩
  | readRaw count => exact .inr (.inl ⟨count, rfl, (possible_hold _ _).mp possible⟩)
  | writeRegisters register bytes =>
      rcases (Routine.possible_bind_pure_run _ _ _).mp possible with ⟨answer, held, rfl⟩
      exact .inr (.inr ⟨register :: bytes, answer, fun _ => rfl, (possible_hold _ _).mp held, rfl⟩)
  | writeRaw bytes =>
      rcases (Routine.possible_bind_pure_run _ _ _).mp possible with ⟨answer, held, rfl⟩
      exact .inr (.inr ⟨bytes, answer, fun _ => rfl, (possible_hold _ _).mp held, rfl⟩)

theorem file_acceptAll {slave : Slave} (flat : slave.Flat) (bytes : List UInt8) :
    (slave.acceptAll false bytes).file = (slave.file.access (.writeRaw bytes)).2 := by
  cases bytes with
  | nil => rfl
  | cons register rest =>
      have pointed : (slave.pointTo register).Flat := flat
      have taken := pointed.acceptAll rest
      rw [Slave.file_pointTo, ByteFile.store_pointTo] at taken
      exact taken

theorem access_writeRaw_fst (file : ByteFile) (bytes : List UInt8) :
    (file.access (.writeRaw bytes)).1 = [] := by
  cases bytes <;> rfl

theorem possible_access_attached {slave : Slave} (node : before.node = bus.node)
    (usable : bus.Usable before) (progress : before.status.transferInProgress = false)
    (attached : before.slave? handle.address = some slave) (flat : slave.Flat)
    (faultless : ¬toll.Blames bus.config.pollAttempts handle.address)
    (possible : (handle.access access).run.Possible (Served bus) before result after toll) :
    result = .ok (slave.file.access access).1 ∧
      ∃ reached, before.Turned handle.address reached after ∧
        reached.file = (slave.file.access access).2 := by
  rcases possible_access_cases possible with
    ⟨register, count, rfl, runs⟩ | ⟨count, rfl, runs⟩ | ⟨bytes, answer, same, runs, rfl⟩
  · have pointed : (slave.pointTo register).Flat := flat
    rcases Bus.runs_readArray node handle.inRange attached runs with ⟨_, ends⟩
    cases result with
    | ok bytes =>
        rcases ends with ⟨_, _, rfl, turned⟩
        rw [pointed.loadAll] at turned ⊢
        exact ⟨rfl, _, turned, rfl⟩
    | error error => exact absurd (ends usable progress) faultless
  · have ends := Bus.runs_readBlock node handle.inRange attached runs
    cases result with
    | ok bytes =>
        rcases ends with ⟨_, _, rfl, turned⟩
        rw [flat.loadAll] at turned ⊢
        exact ⟨rfl, _, turned, rfl⟩
    | error error => exact absurd (ends.2 usable progress) faultless
  · have ends := Bus.runs_writeBlock node handle.inRange attached runs
    cases answer with
    | ok _ =>
        rw [same, access_writeRaw_fst]
        exact ⟨rfl, _, ends.2.2, file_acceptAll flat bytes⟩
    | error error => exact absurd (ends.2 usable progress) faultless

theorem possible_access_absent (node : before.node = bus.node) (usable : bus.Usable before)
    (progress : before.status.transferInProgress = false)
    (absent : before.slave? handle.address = none)
    (possible : (handle.access access).run.Possible (Served bus) before result after toll) :
    bus.Unanswered handle.address before result after toll := by
  have inRange := handle.inRange
  rcases possible_access_cases possible with
    ⟨register, count, rfl, runs⟩ | ⟨count, rfl, runs⟩ | ⟨bytes, answer, _, runs, rfl⟩
  · exact Bus.runs_readArray_absent node inRange usable progress absent runs
  · exact Bus.runs_readBlock_absent node inRange usable progress absent runs
  · exact (Bus.runs_writeBlock_absent node inRange usable progress absent runs).map

theorem usable_access (node : before.node = bus.node) (usable : bus.Usable before)
    (possible : (handle.access access).run.Possible (Served bus) before result after toll) :
    bus.Usable after ∨ bus.Cut toll.failed := by
  rcases possible_access_cases possible with
    ⟨register, count, rfl, runs⟩ | ⟨count, rfl, runs⟩ | ⟨bytes, answer, _, runs, rfl⟩
  · exact (Bus.sustains_readArray _ _ _ _ _ _ _ node runs).2 usable
  · exact (Bus.sustains_readBlock _ _ _ _ _ _ node runs).2 usable
  · exact (Bus.sustains_writeBlock _ _ _ _ _ _ _ node runs).2 usable

theorem possible_access (node : before.node = bus.node) (usable : bus.Usable before)
    (progress : before.status.transferInProgress = false) (flat : before.Flat)
    (faultless : ¬toll.Blames bus.config.pollAttempts handle.address)
    (possible : (handle.access access).run.Possible (Served bus) before result after toll) :
    (result, after.files) = before.files.access handle.address access ∧ bus.Usable after ∧
      ∀ other, handle.address ≠ other → after.slave? other = before.slave? other := by
  -- Only a failed batch could have cut the programming of the core.
  have stays : bus.Usable after := by
    rcases usable_access node usable possible with stays | ⟨step, _, failed⟩
    · exact stays
    · exact absurd (.inl (List.ne_nil_of_mem failed)) faultless
  cases attached : before.slave? handle.address with
  | none =>
      have file : before.files handle.address = none := by rw [Circuit.files, attached]; rfl
      rcases possible_access_absent node usable progress attached possible with
        ⟨same, error, rfl, rfl | blames⟩
      · refine ⟨?_, stays, fun other _ => same other⟩
        rw [Files.access, file, Circuit.files_congr same]
      · exact absurd blames faultless
  | some slave =>
      have file : before.files handle.address = some slave.file := by
        rw [Circuit.files, attached]; rfl
      rcases possible_access_attached node usable progress attached (flat _ _ attached) faultless
          possible with ⟨rfl, reached, turned, equal⟩
      refine ⟨?_, stays, ?_⟩
      · rw [Files.access, file, turned.files, equal]
      · intro other different
        rw [turned other, if_neg different]

/-! ## Many accesses -/

theorem possible_accessAll {calls : List (Handle × Access)}
    {results : List (Except Bus.Error (List UInt8))} (node : before.node = bus.node)
    (usable : bus.Usable before) (progress : before.status.transferInProgress = false)
    (flat : before.Flat) (faultless : ∀ address, ¬toll.Blames bus.config.pollAttempts address)
    (possible : (accessAll calls).Possible (Served bus) before results after toll) :
    (results, after.files) = before.files.accessAll calls ∧
      ∀ address, (∀ call ∈ calls, call.1.address ≠ address) →
        after.slave? address = before.slave? address := by
  induction calls generalizing before results toll with
  | nil =>
      rcases possible with ⟨rfl, rfl, rfl⟩
      exact ⟨rfl, fun _ _ => rfl⟩
  | cons call rest induction =>
      rcases (Routine.possible_bind _ _ _).mp possible with
        ⟨result, middle, first, others, accessed, continued, rfl⟩
      rcases (Routine.possible_map _ _ _).mp continued with ⟨later, remaining, rfl⟩
      rcases possible_access node usable progress flat
          (fun blames => faultless _ (blames.add_right others)) accessed with
        ⟨here, stays, kept⟩
      -- The first access leaves the circuit as the others need it.
      have lasting := served_lasting accessed
      rcases induction (lasting.node.trans node) stays (lasting.progress.trans progress)
          (lasting.flat flat) (fun address blames => faultless address (blames.add_left first))
          remaining with ⟨there, unchanged⟩
      refine ⟨?_, ?_⟩
      · rw [Files.accessAll, ← here, ← there]
      · intro address spared
        rw [unchanged address fun call member => spared call (List.mem_cons_of_mem _ member)]
        exact kept address (spared call List.mem_cons_self)

/-- Users of a bus on which nothing is about to go wrong see its slaves as plain files, and leave
the slaves that they do not address as they are. -/
theorem accessAll_files (bus : Bus) (board : Board Circuit) (calls : List (Handle × Access))
    (free : board.access = .free) (node : board.transport.node = bus.node)
    (built : board.transport.Built) (usable : bus.Usable board.transport)
    (polls : 1 ≤ bus.config.pollAttempts) (stalls : board.transport.stalls = 0)
    (losses : board.transport.losses = 0)
    (simple : ∀ address slave, board.transport.slave? address = some slave →
      slave.paged = false ∧ slave.refusals = 0) :
    let ran := board.run ((accessAll calls).carryOut (carry bus false))
    let plain := board.transport.files.accessAll calls
    ran.1 = plain.1 ∧ ran.2.transport.files = plain.2 ∧
      ∀ address, (∀ call ∈ calls, call.1.address ≠ address) →
        ran.2.transport.slave? address = board.transport.slave? address := by
  intro ran plain
  have calmNode : board.transport.calm.node = bus.node := node
  rcases run_possible Circuit.hosting bus (accessAll calls) board free with
    ⟨toll, possible, settles⟩
  have refusals : ∀ address, board.transport.refusalsAt address = 0 := by
    intro address
    cases attached : board.transport.slave? address with
    | none => simp [Circuit.refusalsAt, attached]
    | some slave => exact (Circuit.refusalsAt_attached attached).trans (simple _ _ attached).2
  have flat : board.transport.Flat := by
    intro address slave attached
    exact (built.sound attached).flat_shape (simple address slave attached).1
  have calmFlat : board.transport.calm.Flat := by
    intro address slave attached
    rcases Circuit.slave?_of_calm attached with ⟨actual, there, rfl⟩
    exact flat address actual there
  have faultless : ∀ address, ¬toll.Blames bus.config.pollAttempts address := by
    intro address
    exact settles.faultless polls stalls losses (refusals address)
  rcases possible_accessAll calmNode usable built.progress calmFlat faultless possible with
    ⟨here, unchanged⟩
  rw [Circuit.files_calm, Circuit.files_calm] at here
  refine ⟨congrArg Prod.fst here, congrArg Prod.snd here, ?_⟩
  intro address spared
  calc ran.2.transport.slave? address
    _ = ran.2.transport.calm.slave? address := settles.slave?_eq (refusals address)
    _ = board.transport.calm.slave? address := unchanged address spared
    _ = board.transport.slave? address :=
        Circuit.calm_slave?_of_refusalsAt (refusals address)

theorem accessAll_files_wrap :
    let bus : Bus := { node := "i2c", config := {}, slaves := .empty }
    let board := Board.ofTransport
      (((Circuit.ofNode "i2c").attach 0x20 (Slave.flat.pointTo 7)).attach 0x50 .flat)
    let expander : Handle := { address := 0x20 }
    let calls : List (Handle × Access) :=
      [ (expander, .writeRegisters 0xFE [1, 2, 3]), (expander, .readRegisters 0xFF 2),
        (expander, .writeRaw []), (expander, .readRaw 0), ({ address := 0x33 }, .readRaw 1) ]
    let ran := board.run ((accessAll calls).carryOut (carry bus false))
    ran.1 = [.ok [], .ok [2, 3], .ok [], .ok [], .error .noAcknowledge] ∧
      (ran.2.transport.files 0x20).map (fun file => (file.pointer, file.writes)) =
        some (1, [(0xFE, 1), (0xFF, 2), (0, 3)]) ∧
      ran.2.transport.slave? 0x50 = some .flat := by
  intro bus board expander calls ran
  have built : board.transport.Built :=
    .attach (.attach (.ofNode "i2c") 0x20 (Slave.flat.pointTo 7) (.inr rfl)) 0x50 .flat (.inr rfl)
  have simple : ∀ address slave, board.transport.slave? address = some slave →
      slave.paged = false ∧ slave.refusals = 0 := by
    intro address slave attached
    change (Table.insert (Table.insert .empty _ _) _ _).get? address = some slave at attached
    simp only [Table.get?_insert] at attached
    split at attached
    · cases attached
      exact ⟨rfl, rfl⟩
    · split at attached
      · cases attached
        exact ⟨rfl, rfl⟩
      · cases attached
  rcases accessAll_files bus board calls rfl rfl built (.inr (by decide)) (by decide) rfl rfl
      simple with ⟨equal, same, spared⟩
  have results : (board.transport.files.accessAll calls).1 =
      [.ok [], .ok [2, 3], .ok [], .ok [], .error .noAcknowledge] := by
    decide +kernel +zetaReduce
  have written : ((board.transport.files.accessAll calls).2 0x20).map
      (fun file => (file.pointer, file.writes)) = some (1, [(0xFE, 1), (0xFF, 2), (0, 3)]) := by
    decide +kernel +zetaReduce
  have other : board.transport.slave? 0x50 = some .flat := rfl
  refine ⟨equal.trans results, ?_, ?_⟩
  · rw [same]
    exact written
  · rw [spared 0x50 (by simp +zetaDelta), other]

end Handle

end ClockBoard
