import ClockBoard.Chip.Basic
import ClockBoard.Proofs.Bus.Usable

/-!
What may become of the work of users on a bus with a circuit below it, and of an upload that a chip
on that bus is the writer for.
-/

namespace ClockBoard

open ClockBoard.Link ClockBoard.Simulation

variable {bus : Bus} {before after : Circuit} {toll : Toll} {α : Type}

namespace Handle

/-- How a bus with a circuit below it may answer its users. -/
abbrev Served (bus : Bus) : Service Handle.interface Circuit Toll :=
  fun request => (carry bus false request).Possible Answered

theorem possible_hold (work : Bus → Bus.Action α) (result : Except Bus.Error α) :
    (hold work).run.Possible (Served bus) before result after toll ↔
      Runs (work bus).run before result after toll :=
  Routine.possible_ask_done _ _

theorem served_lasting {routine : Routine Handle.interface α} {result : α}
    (possible : routine.Possible (Served bus) before result after toll) : before.Lasting after := by
  refine possible.keeps before.Lasting ?_ (.refl before)
  intro request world answer later toll served kept
  exact kept.trans (runs_lasting served)

theorem run_possible {σ : Type} [Transport σ] (host : Hosting σ) (bus : Bus)
    (routine : Routine Handle.interface α) (board : Board σ) (free : board.access = .free) :
    ∃ toll, routine.Possible (Served bus) (host.circuit board.transport).calm
        (board.run (routine.carryOut (carry bus false))).1
        (host.circuit (board.run (routine.carryOut (carry bus false))).2.transport).calm toll ∧
      host.Spends board.transport toll
        (board.run (routine.carryOut (carry bus false))).2.transport := by
  rcases host.run_runs (routine.carryOut (carry bus false)) board free with
    ⟨toll, runs, spends, _⟩
  exact ⟨toll, (Routine.possible_carryOut _ _ _).mp runs, spends⟩

end Handle

namespace Chip

theorem possible_lift (action : Handle.Action α) (result : Except Error α) :
    (liftM action : Action α).run.Possible (Handle.Served bus) before result after toll ↔
      ∃ answer, action.run.Possible (Handle.Served bus) before answer after toll ∧
        result = answer.mapError .bus :=
  Routine.possible_map action.run (Except.mapError Error.bus) result

abbrev Writes (bus : Bus) (write : UInt16 → UInt8 → Action Unit) :
    Service Upload.interface Circuit Toll :=
  fun request => (asWriter write request).Possible (Handle.Served bus)

variable {write : UInt16 → UInt8 → Action Unit}

theorem writes_write {address : UInt16} {value : UInt8} {answer : Except String Unit}
    (written : Writes bus write (.write address value) before answer after toll) :
    ∃ result, (write address value).run.Possible (Handle.Served bus) before result after toll ∧
      answer = result.mapError Error.message :=
  (Routine.possible_map _ _ _).mp written

theorem writes_settle {milliseconds : Nat} {answer : Unit}
    (settled : Writes bus write (.settle milliseconds) before answer after toll) :
    after = before ∧ toll = 0 := by
  rcases settled with ⟨_, rfl, rfl⟩
  exact ⟨rfl, rfl⟩

theorem writes_note {event : Event} {answer : Unit}
    (noted : Writes bus write (.note event) before answer after toll) :
    after = before ∧ toll = 0 :=
  (Routine.possible_ask_done _ _).mp ((Routine.possible_ask_done _ _).mp noted)

theorem upload_possible {σ : Type} [Transport σ] (host : Hosting σ)
    {routine : Routine Upload.interface α} (board : Board σ) (free : board.access = .free) :
    ∃ toll, routine.Possible (Writes bus write) (host.circuit board.transport).calm
        (board.run ((upload write routine).carryOut (Handle.carry bus false))).1
        (host.circuit (board.run ((upload write routine).carryOut
          (Handle.carry bus false))).2.transport).calm toll ∧
      host.Spends board.transport toll
        (board.run ((upload write routine).carryOut (Handle.carry bus false))).2.transport := by
  rcases Handle.run_possible host bus (upload write routine) board free with
    ⟨toll, possible, spends⟩
  exact ⟨toll, (Routine.possible_carryOut _ _ _).mp possible, spends⟩

end Chip

end ClockBoard
