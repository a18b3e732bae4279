import ClockBoard.Proofs.Handle.Access
import ClockBoard.Proofs.Routine.Coupled

/-!
A bus that takes good care of a slave: nothing is about to go wrong, and the slave has no pages.

The main statement says that an access to the slave does to it what it does to a plain file, touches
no other slave, and leaves the bus ready for the next.
-/

namespace ClockBoard

open ClockBoard.Link ClockBoard.Simulation

/-- Whether nothing is about to go wrong with a slave on the board below a bus, and what the slave
is as a plain file. -/
structure Bus.Tends (bus : Bus) (handle : Handle) (board : Board Circuit) (file : ByteFile) :
    Prop where
  polls : 1 ≤ bus.config.pollAttempts
  free : board.access = .free
  node : board.transport.node = bus.node
  usable : bus.Usable board.transport
  progress : board.transport.status.transferInProgress = false
  stalls : board.transport.stalls = 0
  losses : board.transport.losses = 0
  attached : ∃ slave, board.transport.slave? handle.address = some slave ∧
    slave.Flat ∧ slave.refusals = 0 ∧ slave.file = file

namespace Bus

/-- Whether a run leaves all slaves alone but one, and those that have writes to refuse. -/
def Leaves (address : UInt8) (before after : Circuit) : Prop :=
  ∀ other, address ≠ other → before.refusalsAt other = 0 →
    after.slave? other = before.slave? other

theorem Leaves.refl (address : UInt8) (circuit : Circuit) : Leaves address circuit circuit :=
  fun _ _ _ => rfl

theorem Leaves.trans {address : UInt8} {before middle after : Circuit}
    (one : Leaves address before middle) (two : Leaves address middle after) :
    Leaves address before after := by
  intro other different willing
  have same := one other different willing
  have still : middle.refusalsAt other = 0 := by
    rw [Circuit.refusalsAt, same]
    exact willing
  exact (two other different still).trans same

namespace Tends

variable {bus : Bus} {handle : Handle} {board : Board Circuit} {file : ByteFile}

theorem access (tends : bus.Tends handle board file) (access : Handle.Access) :
    let ran := board.run ((handle.access access).run.carryOut (Handle.carry bus false))
    ran.1 = .ok (file.access access).1 ∧ bus.Tends handle ran.2 (file.access access).2 ∧
      Leaves handle.address board.transport ran.2.transport := by
  intro ran
  rcases tends.attached with ⟨slave, attached, flat, willing, rfl⟩
  have refusals : board.transport.refusalsAt handle.address = 0 :=
    (Circuit.refusalsAt_attached attached).trans willing
  rcases Circuit.hosting.run_runs ((handle.access access).run.carryOut (Handle.carry bus false))
    board tends.free with ⟨toll, runs, settles, stays⟩
  have possible := (Routine.possible_carryOut _ _ _).mp runs
  have faultless : ¬toll.Blames bus.config.pollAttempts handle.address :=
    settles.faultless tends.polls tends.stalls tends.losses refusals
  have calmNode : board.transport.calm.node = bus.node := tends.node
  have calmed : board.transport.calm.slave? handle.address = some slave :=
    (Circuit.calm_slave?_of_refusalsAt refusals).trans attached
  rcases Handle.possible_access_attached calmNode tends.usable tends.progress calmed flat
      faultless possible with ⟨went, reached, turned, becomes⟩
  have lasting := runs_lasting runs
  have shape := lasting.shape handle.address
  rw [Circuit.shape?, Circuit.shape?, turned.slave?] at shape
  have build := shape.trans (congrArg (Option.map Slave.shape) calmed)
  have found := (settles.slave?_eq refusals).trans turned.slave?
  refine ⟨went, ⟨tends.polls, stays, lasting.node.trans tends.node, ?_,
    lasting.progress.trans tends.progress, ?_, ?_, reached, found, ?_, ?_, becomes⟩, ?_⟩
  · -- Only a failed batch could have cut the programming of the core.
    rcases Handle.usable_access calmNode tends.usable possible with usable | ⟨step, _, failed⟩
    · exact usable
    · exact absurd (.inl (List.ne_nil_of_mem failed)) faultless
  · have spent : board.transport.stalls = toll.stalls + ran.2.transport.stalls := settles.stalls
    have none := tends.stalls
    omega
  · have spent : board.transport.losses = toll.losses + ran.2.transport.losses := settles.losses
    have none := tends.losses
    omega
  · exact (Option.some.inj build).trans flat
  · have spent := settles.refusals handle.address
    rw [refusals, Circuit.refusalsAt_attached found] at spent
    omega
  · intro other different otherWilling
    calc ran.2.transport.slave? other
      _ = ran.2.transport.calm.slave? other := settles.slave?_eq otherWilling
      _ = board.transport.calm.slave? other := (turned other).trans (if_neg different)
      _ = board.transport.slave? other := Circuit.calm_slave?_of_refusalsAt otherWilling

theorem look (tends : bus.Tends handle board file) (register : UInt8) :
    let ran := board.run (bus.readArray handle.address register 1).run
    ran.1 = .ok [file.cells register] ∧ bus.Tends handle ran.2 (file.pointTo (register + 1)) ∧
      Leaves handle.address board.transport ran.2.transport := by
  have went := tends.access (.readRegisters register 1)
  have asked : (handle.access (.readRegisters register 1)).run.carryOut (Handle.carry bus false) =
      (bus.readArray handle.address register 1).run := Routine.bind_done _
  have block : file.block register 1 = [file.cells register] := by simp [ByteFile.block]
  simp only [asked, ByteFile.access, block] at went
  exact went

theorem put (tends : bus.Tends handle board file) (register value : UInt8) :
    let ran := board.run (bus.writeArray handle.address register [value] true).run
    ran.1 = .ok () ∧
      bus.Tends handle ran.2 ((file.set (register, value)).pointTo (register + 1)) ∧
      Leaves handle.address board.transport ran.2.transport := by
  intro ran
  have went := tends.access (.writeRegisters register [value])
  have asked : (handle.access (.writeRegisters register [value])).run.carryOut
      (Handle.carry bus false) =
      (bus.writeArray handle.address register [value] true).run.bind
        fun answer => .done (answer.map fun _ => []) := by
    refine congrArg (Routine.bind _) (funext fun answer => ?_)
    cases answer <;> rfl
  have stored : file.store register [value] =
      (file.set (register, value)).pointTo (register + 1) := by
    simp [ByteFile.store, ByteFile.placed]
  simp only [asked, ByteFile.access, stored, Board.run, Routine.run_bind] at went
  refine ⟨?_, went.2⟩
  have answer : Except.map (fun _ => []) ran.1 = .ok [] := went.1
  cases ended : ran.1 with
  | ok _ => rfl
  | error error =>
      rw [ended] at answer
      cases answer

theorem change (tends : bus.Tends handle board file) (register : UInt8) (make : UInt8 → UInt8) :
    let work : Bus.Action Unit := do
      let bytes ← bus.readArray handle.address register 1
      bus.writeArray handle.address register [make (bytes.headD 0)] true
    let ran := board.run work.run
    ran.1 = .ok () ∧
      bus.Tends handle ran.2 (((file.pointTo (register + 1)).set
        (register, make (file.cells register))).pointTo (register + 1)) ∧
      Leaves handle.address board.transport ran.2.transport := by
  intro work ran
  rcases tends.look register with ⟨saw, looked, leaves⟩
  rcases looked.put register (make (file.cells register)) with ⟨went, still, leavesToo⟩
  have both : ran = _ := Routine.run_bind_ok (Prod.ext saw rfl)
  rw [both]
  exact ⟨went, still, leaves.trans leavesToo⟩

end Tends

end Bus

end ClockBoard
