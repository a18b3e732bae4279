import Mathlib.Logic.Function.Basic
import ClockBoard.Proofs.Chip.Si534x
import ClockBoard.Proofs.Simulation.Trial

/-!
Several users share a bus. Each has its own routine, and a schedule says whose request is the next
to be served; a piece of work that holds the bus is one request, so nobody else comes between its
steps.

The main statement is about a user who writes a register of a paged chip, whatever the others do to
the chip and whatever goes wrong: the chip takes the write where it belongs, or it takes less of it
and the user is told.
-/

namespace ClockBoard

open ClockBoard.Link ClockBoard.Simulation

/-- What is left to do for each of the users of a bus. -/
abbrev Users (ν : Type) : Type 1 :=
  ν → Routine Handle.interface Unit

namespace Users

variable {ν σ : Type} [DecidableEq ν] [Transport σ]

/-- Serve the next request of a user. One who has nothing left to do lets the turn pass. -/
def turn (bus : Bus) (user : ν) (users : Users ν) (board : Board σ) : Users ν × Board σ :=
  match users user with
  | .done _ => (users, board)
  | .ask request next =>
      let served := board.run (Handle.carry bus false request)
      (Function.update users user (next served.1), served.2)

def turns (bus : Bus) : (schedule : List ν) → Users ν → Board σ → Users ν × Board σ
  | [], users, board => (users, board)
  | user :: rest, users, board =>
      let taken := turn bus user users board
      turns bus rest taken.1 taken.2

theorem turn_lasting (bus : Bus) (host : Hosting σ) (user : ν) (users : Users ν)
    (board : Board σ) (free : board.access = .free) :
    (turn bus user users board).2.access = .free ∧
      (host.circuit board.transport).calm.Lasting
        (host.circuit (turn bus user users board).2.transport).calm := by
  unfold turn
  split
  · exact ⟨free, .refl _⟩
  · rename_i request next _
    rcases host.run_runs (Handle.carry bus false request) board free with ⟨_, runs, _, stays⟩
    exact ⟨stays, runs_lasting runs⟩

theorem turns_lasting (bus : Bus) (host : Hosting σ) (schedule : List ν) (users : Users ν)
    (board : Board σ) (free : board.access = .free) :
    (turns bus schedule users board).2.access = .free ∧
      (host.circuit board.transport).calm.Lasting
        (host.circuit (turns bus schedule users board).2.transport).calm := by
  induction schedule generalizing users board with
  | nil => exact ⟨free, .refl _⟩
  | cons user rest induction =>
      rcases turn_lasting bus host user users board free with ⟨stays, lasting⟩
      rcases induction _ _ stays with ⟨free, others⟩
      exact ⟨free, lasting.trans others⟩

end Users

namespace Chip.Si534x

/-- Whether a chip has taken a write between two states of its circuit, as the result of the write
tells. Its register writes are the first of those that were planned, and all of them if the write
went well. -/
def Takes (chip : Si534x) (address : UInt16) (value : UInt8) (before after : Circuit)
    (result : Except Error Unit) : Prop :=
  ∃ held turned done, before.slave? chip.handle.address = some held ∧
    after.slave? chip.handle.address = some turned ∧
    turned.writes.toList = held.writes.toList ++ done ∧
    done <+: plan held.page address value ∧
    (result = .ok () → done = plan held.page address value)

theorem writeRegister_run (chip : Si534x) (address : UInt16) (value : UInt8) :
    ∃ work : Bus → Bus.Action Unit, (chip.writeRegister address value).run =
      .ask (Handle.Request.hold work) fun answer => .done (answer.mapError .bus) :=
  ⟨_, rfl⟩

theorem writeRegister_possible {chip : Si534x} {address : UInt16} {value : UInt8} {bus : Bus}
    {work : Bus → Bus.Action Unit} {before after : Circuit} {answer : Except Bus.Error Unit}
    {toll : Toll}
    (equal : (chip.writeRegister address value).run =
      .ask (Handle.Request.hold work) fun answer => .done (answer.mapError .bus))
    (runs : Runs (Handle.carry bus false (.hold work)) before answer after toll) :
    (chip.writeRegister address value).run.Possible (Handle.Served bus) before
      (answer.mapError .bus) after toll := by
  rw [equal]
  exact ⟨answer, after, toll, 0, runs, ⟨rfl, rfl, rfl⟩, (add_zero toll).symm⟩

theorem Takes.of_lands {chip : Si534x} {address : UInt16} {value : UInt8} {bus : Bus}
    {before after : Circuit} {slave : Slave} {result : Except Error Unit} {toll : Toll}
    (attached : before.slave? chip.handle.address = some slave)
    (lands : bus.Lands chip.handle.address (plan slave.page address value) before.calm slave.calm
      result after.calm toll) :
    chip.Takes address value before after result := by
  rcases lands with ⟨done, last, isPrefix, becomes, wrote, ends⟩
  rcases Circuit.slave?_of_calm becomes.slave? with ⟨turned, present, rfl⟩
  refine ⟨slave, turned, done, attached, present, wrote.writes, isPrefix, ?_⟩
  rintro rfl
  exact ends.1

/-- A chip that is written to by one of several users takes the write where it belongs. -/
theorem takes_among_users {ν : Type} [DecidableEq ν] (bus : Bus) (chip : Si534x)
    (address : UInt16) (value : UInt8) (slave : Slave) (users : Users ν) (board : Board Trial)
    (schedule : List ν) (user : ν) (next : Except Error Unit → Routine Handle.interface Unit)
    (free : board.access = .free) (node : board.transport.circuit.node = bus.node)
    (attached : board.transport.circuit.slave? chip.handle.address = some slave)
    (paged : slave.paged = true)
    (writing : (Users.turns bus schedule users board).1 user =
      (chip.writeRegister address value).run.bind next) :
    let reached := Users.turns bus schedule users board
    let taken := Users.turn bus user reached.1 reached.2
    ∃ result, taken.1 user = next result ∧
      chip.Takes address value reached.2.transport.circuit taken.2.transport.circuit result := by
  intro reached taken
  rcases Users.turns_lasting bus Trial.hosting schedule users board free with ⟨stays, lasting⟩
  -- The others may have moved the page, but the chip is still there and has its pages.
  have shape := lasting.shape chip.handle.address
  rw [Circuit.calm_shape?, Circuit.calm_shape?] at shape
  have known : board.transport.circuit.shape? chip.handle.address = some slave.shape :=
    congrArg (Option.map Slave.shape) attached
  rcases Option.map_eq_some_iff.mp (shape.trans known) with ⟨held, present, same⟩
  have heldPaged : held.paged = true := (congrArg Prod.fst same).trans paged
  have reachedNode : reached.2.transport.circuit.node = bus.node := lasting.node.trans node
  rcases writeRegister_run chip address value with ⟨work, equal⟩
  have asked : reached.1 user = .ask (Handle.Request.hold work) fun answer =>
      next (answer.mapError .bus) := by
    rw [writing, equal]
    rfl
  rcases Trial.hosting.run_runs (Handle.carry bus false (.hold work)) reached.2 stays with
    ⟨toll, runs, _, _⟩
  have isTaken : taken = (Function.update reached.1 user
      (next ((reached.2.run (Handle.carry bus false (.hold work))).1.mapError .bus)),
      (reached.2.run (Handle.carry bus false (.hold work))).2) := by
    unfold taken Users.turn
    rw [asked]
  refine ⟨(reached.2.run (Handle.carry bus false (.hold work))).1.mapError .bus, ?_, ?_⟩
  · rw [isTaken]
    exact Function.update_self _ _ _
  · rw [isTaken]
    have calmed : reached.2.transport.circuit.calm.slave? chip.handle.address = some held.calm :=
      (Circuit.calm_slave? _ _).trans (congrArg (Option.map Slave.calm) present)
    have calmNode : reached.2.transport.circuit.calm.node = bus.node := reachedNode
    have calmPaged : held.calm.paged = true := heldPaged
    have possible := writeRegister_possible equal runs
    exact Takes.of_lands present (runs_writeRegister calmNode calmPaged calmed possible)

theorem takes_after_other_user :
    let bus : Bus := { node := "i2c", config := {}, slaves := .empty }
    let chip : Si534x := { handle := { address := 0x68 } }
    let board := Board.ofTransport (Trial.on ((Circuit.ofNode "i2c").attach 0x68 .pages)
      fun batch => if batch = 12 then [.stall 30] else [])
    let users : Users Bool := fun other =>
      if other then (chip.handle.writeRegister pageRegister 5).run.bind fun _ => .done ()
      else (chip.writeRegister 0x0B24 0xC0).run.bind fun _ => .done ()
    let reached := Users.turns bus [true] users board
    let taken := Users.turn bus false reached.1 reached.2
    ∃ result, taken.1 false = .done () ∧
      chip.Takes 0x0B24 0xC0 reached.2.transport.circuit taken.2.transport.circuit result := by
  intro bus chip board users
  have attached : board.transport.circuit.slave? chip.handle.address = some .pages :=
    (Table.get?_insert _ _ _ _).trans (if_pos rfl)
  exact takes_among_users bus chip 0x0B24 0xC0 .pages users board [true] false
    (fun _ => .done ()) rfl rfl attached rfl rfl

end Chip.Si534x

end ClockBoard
