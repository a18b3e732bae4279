import ClockBoard.Proofs.Bus.Usable
import ClockBoard.Proofs.Simulation.Built
import ClockBoard.Proofs.Simulation.Trial

/-!
What resets make up for. A reset sets the prescale in any case, but it switches a core on only if
it has found the prescale wrong, so a core that is switched off behind the right prescale stays off:
a core that somebody else has left like that, or one on which a reset was cut in the middle.

The main statement says after which calls, and after which failures, a reset that goes well leaves a
core that works.
-/

namespace ClockBoard.Bus

open ClockBoard.Core ClockBoard.Link ClockBoard.Simulation

variable {bus : Bus} {before after : Circuit} {toll : Toll}

/-! ## Calls -/

inductive Call
  | reset
  | waitUntilFinished (needAck needIdle : Bool)
  | sendByte (command : Command) (byte : UInt8)
  | receiveByte (command : Command)
  | writeBlock (address : UInt8) (bytes : List UInt8) (stop : Bool)
  | readBlock (address : UInt8) (count : Nat)
  | readArray (address register : UInt8) (count : Nat)
  | writeArray (address register : UInt8) (bytes : List UInt8) (stop : Bool)
  | ping (address : UInt8)
  | scan

def Call.target? : Call → Option UInt8
  | .writeBlock address _ _ => some address
  | .readBlock address _ => some address
  | .readArray address _ _ => some address
  | .writeArray address _ _ _ => some address
  | .ping address => some address
  | _ => none

def attempt {α : Type} (action : Action α) : Routine Link.interface Bool :=
  action.run.bind fun result => .done result.isOk

def make (bus : Bus) : Call → Routine Link.interface Bool
  | .reset => attempt bus.reset
  | .waitUntilFinished needAck needIdle => attempt (bus.waitUntilFinished needAck needIdle)
  | .sendByte command byte => attempt (bus.sendByte command byte)
  | .receiveByte command => attempt (bus.receiveByte command)
  | .writeBlock address bytes stop => attempt (bus.writeBlock address bytes stop)
  | .readBlock address count => attempt (bus.readBlock address count)
  | .readArray address register count => attempt (bus.readArray address register count)
  | .writeArray address register bytes stop => attempt (bus.writeArray address register bytes stop)
  | .ping address => bus.ping address
  | .scan => bus.scan.bind fun _ => .done true

def makeAll (bus : Bus) : List Call → Routine Link.interface Unit
  | [] => .done ()
  | call :: rest => (bus.make call).bind fun _ => bus.makeAll rest

theorem sustains_attempt {α : Type} {action : Action α} (sustains : bus.Sustains action.run) :
    bus.Sustains (attempt action) :=
  sustains_bind sustains fun _ => sustains_done _

theorem sustains_make (call : Call) : bus.Sustains (bus.make call) := by
  cases call with
  | reset => exact sustains_attempt sustains_reset
  | waitUntilFinished needAck needIdle => exact sustains_attempt (sustains_poll _ _ _ _)
  | sendByte command byte => exact sustains_attempt (sustains_sendByte _ _)
  | receiveByte command => exact sustains_attempt (sustains_receiveByte _)
  | writeBlock address bytes stop => exact sustains_attempt (sustains_writeBlock _ _ _)
  | readBlock address count => exact sustains_attempt (sustains_readBlock _ _)
  | readArray address register count => exact sustains_attempt (sustains_readArray _ _ _)
  | writeArray address register bytes stop => exact sustains_attempt (sustains_writeBlock _ _ _)
  | ping address => exact sustains_ping address
  | scan => exact sustains_bind sustains_scan fun _ => sustains_done _

theorem sustains_makeAll (calls : List Call) : bus.Sustains (bus.makeAll calls) := by
  induction calls with
  | nil => exact sustains_done ()
  | cons call rest induction => exact sustains_bind (sustains_make call) fun _ => induction

/-! ## Calls without faults -/

theorem isOk_of_ends {ε α : Type} {good : α → Prop} {bad : Prop} {result : Except ε α}
    (ends : Ends good bad result) (faultless : ¬bad) : result.isOk = true := by
  cases result with
  | ok value => rfl
  | error error => exact absurd ends faultless

theorem runs_attempt {α : Type} {action : Action α} {result : Bool}
    (runs : Runs (attempt action) before result after toll) :
    ∃ answer, Runs action.run before answer after toll ∧ result = answer.isOk :=
  (Routine.possible_map _ _ _).mp runs

theorem runs_make_acknowledged {call : Call} {address : UInt8} {slave : Slave} {result : Bool}
    (node : before.node = bus.node) (usable : bus.Usable before)
    (progress : before.status.transferInProgress = false) (aimed : call.target? = some address)
    (inRange : address ≤ lastAddress) (attached : before.slave? address = some slave)
    (faultless : ¬toll.Blames bus.config.pollAttempts address)
    (runs : Runs (bus.make call) before result after toll) : result = true := by
  cases call with
  | reset => cases aimed
  | waitUntilFinished needAck needIdle => cases aimed
  | sendByte command byte => cases aimed
  | receiveByte command => cases aimed
  | scan => cases aimed
  | writeBlock target bytes stop =>
      cases aimed
      rcases runs_attempt runs with ⟨answer, possible, rfl⟩
      exact isOk_of_ends (runs_writeBlock node inRange attached possible) fun ends =>
        faultless (ends.2 usable progress)
  | readBlock target count =>
      cases aimed
      rcases runs_attempt runs with ⟨answer, possible, rfl⟩
      exact isOk_of_ends (runs_readBlock node inRange attached possible) fun ends =>
        faultless (ends.2 usable progress)
  | readArray target register count =>
      cases aimed
      rcases runs_attempt runs with ⟨answer, possible, rfl⟩
      exact isOk_of_ends (runs_readArray node inRange attached possible).2 fun blames =>
        faultless (blames usable progress)
  | writeArray target register bytes stop =>
      cases aimed
      rcases runs_attempt runs with ⟨answer, possible, rfl⟩
      exact isOk_of_ends (runs_writeBlock node inRange attached possible) fun ends =>
        faultless (ends.2 usable progress)
  | ping target =>
      cases aimed
      rcases (Routine.possible_bind _ _ _).mp runs with
        ⟨answer, _, first, rest, tried, answered, rfl⟩
      have ends := runs_tryAddress node inRange attached tried
      cases answer with
      | ok _ => exact answered.1
      | error error => exact absurd ((ends usable progress).add_right rest) faultless

/-! ## Cut resets -/

theorem programming_nodup (bus : Bus) : bus.programming.Nodup := by
  have differs : Control.layout.toWord {} ≠ Control.layout.toWord { enable := true } := by decide
  simp [programming, differs]

/-- Whether programming that is cut at a write, counted from zero, is made up for by a later
reset. -/
def Repairable (bus : Bus) (index : Nat) (circuit : Circuit) : Prop :=
  index ≤ 1 ∨ index = 2 ∧ circuit.prescaleLow ≠ lowByte bus.prescale

theorem runs_reset_cut {index : Nat} {step : Register × UInt32} {error : Error}
    (node : before.node = bus.node) (isStep : bus.programming[index]? = some step)
    (failed : toll.failed = [[.write (bus.path step.1) step.2]])
    (runs : Runs bus.reset.run before (.error error) after toll) :
    bus.Usable after ↔ bus.Repairable index before := by
  rcases runs_reset node runs with
    ⟨operations, other, long, _⟩ | ⟨wrong, done, cut, rest, equal, other, rfl⟩
  · rw [failed, List.singleton_inj] at other
    rw [← other] at long
    exact absurd rfl long
  · rw [failed, List.singleton_inj, List.singleton_inj, Operation.write.injEq] at other
    have same : cut = step := Prod.ext (Register.path_injective _ other.1).symm other.2.symm
    subst same
    have isCut : bus.programming[done.length]? = some cut := by
      rw [equal, List.getElem?_append_right (Nat.le_refl _), Nat.sub_self]
      rfl
    have within : index < bus.programming.length := (List.getElem?_eq_some_iff.mp isStep).1
    have place : index = done.length :=
      (List.getElem?_inj within bus.programming_nodup).mp (isStep.trans isCut.symm)
    rw [place]
    exact usable_program_iff equal wrong

/-! ## Recovery -/

/-- Whether a trial has made no core usable, and has spoilt a usable one only by a cut in its
programming. -/
def Sustained (bus : Bus) (before after : Trial) : Prop :=
  (bus.Usable after.circuit → bus.Usable before.circuit) ∧
    (bus.Usable before.circuit → bus.Usable after.circuit ∨
      ∃ failed, after.failed = before.failed ++ failed ∧ bus.Cut failed)

/-- Whether a reset has set the prescale, and has left the core on if it was usable. -/
def Restored (bus : Bus) (path : ResetPath) (before after : Circuit) : Prop :=
  after.prescale = bus.prescale ∧ (after.enabled = true ↔ bus.Usable before) ∧
    (path = .full → after.enabled = true)

section Boards

variable {board : Board Trial}

theorem makeAll_sustained (calls : List Call) (free : board.access = .free)
    (node : board.transport.circuit.node = bus.node) :
    (board.run (bus.makeAll calls)).2.access = .free ∧
      board.transport.circuit.calm.Lasting
        (board.run (bus.makeAll calls)).2.transport.circuit.calm ∧
      bus.Sustained board.transport (board.run (bus.makeAll calls)).2.transport := by
  have calmNode : board.transport.circuit.calm.node = bus.node := node
  rcases Trial.hosting.run_runs (bus.makeAll calls) board free with ⟨toll, runs, spends, stays⟩
  rcases sustains_makeAll calls _ _ _ _ calmNode runs with ⟨earlier, later⟩
  refine ⟨stays, runs_lasting runs, earlier, ?_⟩
  intro usable
  rcases later usable with usable | cut
  · exact .inl usable
  · exact .inr ⟨toll.failed, spends.failed, cut⟩

theorem reset_restored {path : ResetPath} (free : board.access = .free)
    (node : board.transport.circuit.node = bus.node)
    (ok : (board.run bus.reset.run).1 = .ok path) :
    bus.Restored path board.transport.circuit (board.run bus.reset.run).2.transport.circuit := by
  have calmNode : board.transport.circuit.calm.node = bus.node := node
  rcases Trial.hosting.run_runs bus.reset.run board free with ⟨toll, runs, _, _⟩
  rw [ok] at runs
  exact (runs_reset_ok calmNode runs).2

theorem reset_cut {index : Nat} {step : Register × UInt32} {error : Error}
    (free : board.access = .free) (node : board.transport.circuit.node = bus.node)
    (isStep : bus.programming[index]? = some step)
    (fails : (board.run bus.reset.run).1 = .error error)
    (failed : (board.run bus.reset.run).2.transport.failed =
      board.transport.failed ++ [[.write (bus.path step.1) step.2]]) :
    bus.Usable (board.run bus.reset.run).2.transport.circuit ↔
      bus.Repairable index board.transport.circuit := by
  have calmNode : board.transport.circuit.calm.node = bus.node := node
  rcases Trial.hosting.run_runs bus.reset.run board free with ⟨toll, runs, spends, _⟩
  rw [fails] at runs
  have same := List.append_cancel_left (spends.failed.symm.trans failed)
  have cut := runs_reset_cut calmNode isStep same runs
  exact cut

theorem make_acknowledged {call : Call} {address : UInt8} {slave : Slave}
    (free : board.access = .free) (node : board.transport.circuit.node = bus.node)
    (progress : board.transport.circuit.status.transferInProgress = false)
    (on : board.transport.circuit.enabled = true) (aimed : call.target? = some address)
    (inRange : address ≤ lastAddress)
    (attached : board.transport.circuit.slave? address = some slave)
    (polls : 1 ≤ bus.config.pollAttempts) (quiet : board.transport.Over)
    (stalls : board.transport.circuit.stalls = 0) (losses : board.transport.circuit.losses = 0)
    (refusals : slave.refusals = 0) : (board.run (bus.make call)).1 = true := by
  have calmNode : board.transport.circuit.calm.node = bus.node := node
  rcases Trial.hosting.run_runs (bus.make call) board free with ⟨toll, runs, spends, _⟩
  have settles := spends.settles quiet
  have patient := (Circuit.refusalsAt_attached attached).trans refusals
  have faultless := settles.faultless polls stalls losses patient
  have calmed := Circuit.calm_attached attached
  exact runs_make_acknowledged calmNode (.inl on) progress aimed inRange calmed faultless runs

end Boards

/-- What a reset makes up for after any calls, whatever batches have failed. -/
theorem reset_recovers (bus : Bus) (board : Board Trial) (calls : List Call)
    (free : board.access = .free) (node : board.transport.circuit.node = bus.node)
    (built : board.transport.circuit.Built) :
    let before := (board.run (bus.makeAll calls)).2
    let ran := before.run bus.reset.run
    bus.Sustained board.transport before.transport ∧
    (∀ path, ran.1 = .ok path →
      bus.Restored path before.transport.circuit ran.2.transport.circuit) ∧
    -- A reset that was cut early is made up for by the next one that goes well.
    (∀ index step error, bus.programming[index]? = some step → ran.1 = .error error →
      ran.2.transport.failed = before.transport.failed ++ [[.write (bus.path step.1) step.2]] →
      ∀ more path,
        let later := (ran.2.run (bus.makeAll more)).2
        let again := later.run bus.reset.run
        again.1 = .ok path →
        again.2.transport.circuit.prescale = bus.prescale ∧
        (again.2.transport.circuit.enabled = true →
          bus.Repairable index before.transport.circuit) ∧
        (bus.Repairable index before.transport.circuit →
          again.2.transport.circuit.enabled = true ∨
            ∃ failed, later.transport.failed = ran.2.transport.failed ++ failed ∧
              bus.Cut failed)) ∧
    -- A core that was left on acknowledges the next transaction, if nothing goes wrong with it.
    (∀ path call address slave, ran.1 = .ok path →
      ran.2.transport.circuit.enabled = true → call.target? = some address →
      address ≤ lastAddress → ran.2.transport.circuit.slave? address = some slave →
      1 ≤ bus.config.pollAttempts → ran.2.transport.Over → ran.2.transport.circuit.stalls = 0 →
      ran.2.transport.circuit.losses = 0 → slave.refusals = 0 →
      (ran.2.run (bus.make call)).1 = true) := by
  intro before ran
  rcases makeAll_sustained calls free node with ⟨stays, lasting, sustained⟩
  have reached : before.transport.circuit.node = bus.node := lasting.node.trans node
  rcases Trial.hosting.run_runs bus.reset.run before stays with ⟨_, runs, _, freed⟩
  have same := runs_lasting runs
  have resetNode : ran.2.transport.circuit.node = bus.node := same.node.trans reached
  refine ⟨sustained, fun path ok => reset_restored stays reached ok, ?_, ?_⟩
  · intro index step error isStep fails failed more path later again ok
    have usable := reset_cut stays reached isStep fails failed
    rcases makeAll_sustained more freed resetNode with ⟨open', lasting', earlier, spoilt⟩
    rcases reset_restored open' (lasting'.node.trans resetNode) ok with ⟨prescale, restored, _⟩
    refine ⟨prescale, fun on => usable.mp (earlier (restored.mp on)), ?_⟩
    intro repairable
    rcases spoilt (usable.mpr repairable) with stillUsable | cut
    · exact .inl (restored.mpr stillUsable)
    · exact .inr cut
  · intro path call address slave _ on aimed inRange attached polls quiet stalls losses refusals
    have progress : ran.2.transport.circuit.status.transferInProgress = false :=
      same.progress.trans (lasting.progress.trans built.progress)
    exact make_acknowledged freed resetNode progress on aimed inRange attached polls quiet stalls
      losses refusals

theorem reset_recovers_early_cut :
    let bus : Bus := { node := "i2c", config := {}, slaves := .empty }
    let board := Board.ofTransport (Trial.on ((Circuit.ofNode "i2c").attach 0x20 .flat)
      fun batch => if batch = 2 then [.fail .io] else [])
    let cut := (board.run (bus.makeAll [.reset])).2
    let again := cut.run bus.reset.run
    cut.transport.failed = [[.write "i2c.ps_hi" 0]] ∧ again.1.isOk = true ∧
      again.2.transport.circuit.enabled = true ∧
      (again.2.run (bus.make (.ping 0x20))).1 = true := by
  intro bus board cut again
  have built : board.transport.circuit.Built := .attach (.ofNode "i2c") 0x20 .flat (.inr rfl)
  have free : board.access = .free := rfl
  have isCut : cut = (board.run (bus.makeAll [.reset])).2 := rfl
  have isAgain : again = cut.run bus.reset.run := rfl
  rcases reset_recovers bus board [.reset] free rfl built with ⟨_, restored, _, acknowledged⟩
  rw [← isCut, ← isAgain] at restored acknowledged
  have ok : again.1.isOk = true := by decide +kernel +zetaReduce
  have usable : bus.Usable cut.transport.circuit := .inr (by decide +kernel +zetaReduce)
  have slave : (again.2.transport.circuit.slave? 0x20).map Slave.refusals = some 0 := by
    decide +kernel +zetaReduce
  rcases Option.map_eq_some_iff.mp slave with ⟨held, attached, refusals⟩
  have cutFree : cut.access = .free := by decide +kernel +zetaReduce
  have troubles : again.2.transport.troubles = board.transport.troubles := by
    rw [isAgain, Trial.run_troubles bus.reset.run cut cutFree, isCut,
      Trial.run_troubles (bus.makeAll [.reset]) board free]
  have passed : 2 < again.2.transport.passed := by decide +kernel +zetaReduce
  have quiet : again.2.transport.Over := by
    intro batch later
    rw [troubles]
    exact if_neg (by omega)
  refine ⟨by decide +kernel +zetaReduce, ok, ?_⟩
  cases result : again.1 with
  | error error =>
      rw [result] at ok
      cases ok
  | ok path =>
      have on := (restored path result).2.1.mpr usable
      exact ⟨on, acknowledged path (.ping 0x20) 0x20 held result on rfl (by decide) attached
        (by decide) quiet (by decide +kernel +zetaReduce) (by decide +kernel +zetaReduce) refusals⟩

/-- A reset that is cut at its last write is not: the next one finds the prescale right, and goes
well on a core that stays off. -/
theorem reset_after_late_cut :
    let bus : Bus := { node := "i2c", config := {}, slaves := .empty }
    let board := Board.ofTransport (Trial.on ((Circuit.ofNode "i2c").attach 0x20 .flat)
      fun batch => if batch = 6 then [.fail .io] else [])
    let cut := (board.run (bus.makeAll [.reset])).2
    let again := cut.run bus.reset.run
    cut.transport.failed = [[.write "i2c.ctrl" 0x80]] ∧ again.1.toOption = some .short ∧
      again.2.transport.circuit.prescale = bus.prescale ∧
      again.2.transport.circuit.enabled = false ∧
      (again.2.run (bus.make (.ping 0x20))).1 = false := by
  decide +kernel

end ClockBoard.Bus
