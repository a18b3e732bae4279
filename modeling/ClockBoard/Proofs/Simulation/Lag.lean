import ClockBoard.Proofs.Simulation.Execution

/-!
A circuit that stalls does all that it would do anyway. Stalls are counted down by status reads and
show nowhere else.
-/

namespace ClockBoard.Simulation.Circuit

open ClockBoard.Core ClockBoard.Link

variable (circuit : Circuit) (polls : Nat)

theorem move_stall (command : Command) :
    (circuit.stall polls).move command = (circuit.move command).stall polls := by
  have send : (circuit.stall polls).send = circuit.send.stall polls := by
    simp only [Circuit.send, stall]
    split <;> rfl
  have receive (refused : Bool) :
      (circuit.stall polls).receive refused = (circuit.receive refused).stall polls := by
    simp only [Circuit.receive, stall]
    split <;> rfl
  simp only [move, send, receive]
  split
  · split <;> rfl
  · split <;> rfl

theorem conclude_stall (command : Command) :
    (circuit.stall polls).conclude command = (circuit.conclude command).stall polls := by
  unfold conclude
  split <;> rfl

theorem execute_stall (command : Command) :
    (circuit.stall polls).execute command = (circuit.execute command).stall polls := by
  rcases execute_cases circuit command with
    ⟨rfl, _⟩ | ⟨asks, off, same⟩ | ⟨asks, on, loses, same⟩ | ⟨asks, on, wins, same⟩
  · rfl
  · have off' : (circuit.stall polls).enabled = false := off
    rw [same, execute_off asks off']
    rfl
  · have on' : (circuit.stall polls).enabled = true := on
    rw [same, execute_lost asks on' loses]
    rfl
  · have on' : (circuit.stall polls).enabled = true := on
    rw [same, execute_won asks on' wins, ← conclude_stall, ← move_stall]
    rfl

theorem write_stall (value : UInt32) (register : Register) :
    (circuit.stall polls).write value register = (circuit.write value register).stall polls := by
  cases register with
  | command => exact execute_stall circuit polls _
  | _ => rfl

theorem read_stall {register : Register} (other : register ≠ .command) :
    (circuit.stall polls).read register =
      ((circuit.read register).1, (circuit.read register).2.stall polls) := by
  cases register with
  | command => exact absurd rfl other
  | _ => rfl

theorem readStatus_stall :
    (circuit.stall polls).readStatus =
      (Status.layout.toWord { circuit.status with
          transferInProgress := polls != 0 || circuit.status.transferInProgress },
        circuit.stall (polls - 1)) := by
  cases polls <;> rfl

def Blind (operations : List Operation) : Prop :=
  ∀ path, .read path ∈ operations → ∀ node, Register.ofPath? node path ≠ some .command

theorem Blind.nil : Blind [] :=
  fun _ member => nomatch member

theorem Blind.write {operations : List Operation} (path : String) (value : UInt32)
    (blind : Blind operations) : Blind (.write path value :: operations) := by
  intro other member
  rcases List.mem_cons.mp member with impossible | member
  · cases impossible
  · exact blind other member

theorem Blind.read {operations : List Operation} (node : String) (register : Register)
    (other : register ≠ .command) (blind : Blind operations) :
    Blind (.read (register.path node) :: operations) := by
  intro path member
  rcases List.mem_cons.mp member with same | member
  · cases same
    exact fun actual known => other (Register.eq_of_ofPath? known).symm
  · exact blind path member

theorem perform_stall {operations : List Operation} (blind : Blind operations) :
    perform operations (circuit.stall polls) =
      ((perform operations circuit).1, (perform operations circuit).2.stall polls) := by
  induction operations generalizing circuit with
  | nil => rfl
  | cons operation rest induction =>
      have later : Blind rest := fun path member => blind path (List.mem_cons_of_mem _ member)
      have node : (circuit.stall polls).node = circuit.node := rfl
      unfold perform
      rw [node]
      split
      · exact induction circuit later
      · rw [write_stall]
        exact induction _ later
      · rename_i register path known
        have other : register ≠ .command := by
          rintro rfl
          exact blind path List.mem_cons_self _ known
        rw [read_stall circuit polls other]
        simp only [induction _ later]

theorem carry_stall (batch : Batch) (blind : Blind batch.operations) :
    (circuit.stall polls).carry batch =
      ((circuit.carry batch).1, (circuit.carry batch).2.stall polls) := by
  have node : (circuit.stall polls).node = circuit.node := rfl
  unfold carry
  rw [node]
  split
  · rfl
  · rw [perform_stall circuit polls blind]

/-- Whether two circuits are the same, but the second stalls for a number of status reads at
most. -/
def Lags (most : Nat) (one two : Circuit) : Prop :=
  one.stalls = 0 ∧ ∃ left ≤ most, two = one.stall left

theorem Lags.carry {most : Nat} {one two : Circuit} (lags : Lags most one two) (batch : Batch)
    (blind : Blind batch.operations) :
    (one.carry batch).1 = (two.carry batch).1 ∧
      Lags most (one.carry batch).2 (two.carry batch).2 := by
  rcases lags with ⟨calm, left, few, rfl⟩
  -- A circuit that stalls as it does already is the same.
  have stays : (one.carry batch).2.stalls = one.stalls :=
    congrArg (fun carried => carried.2.stalls) (one.carry_stall one.stalls batch blind)
  rw [one.carry_stall left batch blind]
  exact ⟨rfl, stays.trans calm, left, few, rfl⟩

end ClockBoard.Simulation.Circuit
