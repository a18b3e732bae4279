import ClockBoard.Chip.Si534x
import ClockBoard.Proofs.Chip.Writer

/-!
What writing a register of a paged chip may come to. The page is looked up, switched if it is not
the right one, and only then is the register written; each step is taken only if the one before it
went well.

The main statement says that the register writes of the chip are the first of those two, in this
order, and all of them if the write goes well.
-/

namespace ClockBoard.Chip.Si534x

open ClockBoard.Link ClockBoard.Simulation ClockBoard.Bus

variable {bus : Bus} {before after : Circuit} {toll : Toll} {α : Type}

def turningTo (page current : UInt8) : List (UInt16 × UInt8) :=
  if current = page then [] else [(joinBytes current pageRegister, page)]

/-- The register writes that bring a value into a register of a chip that is on a page. -/
def plan (current : UInt8) (address : UInt16) (value : UInt8) : List (UInt16 × UInt8) :=
  turningTo (highByte address) current ++ [(address, value)]

theorem lowByte_of_mem_turningTo {page current : UInt8} {write : UInt16 × UInt8}
    (member : write ∈ turningTo page current) : lowByte write.1 = pageRegister := by
  rw [turningTo] at member
  split at member
  · cases member
  · rw [List.mem_singleton.mp member]
    exact lowByte_joinBytes _ _

theorem loaded_page {slave : Slave} (paged : slave.paged = true) :
    ((slave.pointTo pageRegister).loadAll 1).1.headD 0 = slave.page := by
  simp [Slave.loadAll, Slave.load, Slave.atPageRegister, Slave.pointTo, paged, pageRegister,
    Simulation.pageRegister]

theorem page_of_turningTo {slave reached : Slave} {page : UInt8} (paged : slave.paged = true)
    (wrote : slave.Wrote (turningTo page slave.page) reached) : reached.page = page := by
  rcases wrote with ⟨pointer, rfl⟩
  rw [turningTo]
  split
  · assumption
  · simp [Slave.apply, Slave.pointTo, paged, pageRegister, Simulation.pageRegister]

theorem runs_onPage_cases {chip : Si534x} {slave : Slave} {page : UInt8}
    {work : Bus → UInt8 → Bus.Action α} {result : Except Bus.Error α}
    (node : before.node = bus.node) (paged : slave.paged = true)
    (attached : before.slave? chip.handle.address = some slave)
    (possible : (chip.onPage page work).run.Possible (Handle.Served bus) before result after
      toll) :
    (∃ error, result = .error error ∧
      bus.Lands chip.handle.address (turningTo page slave.page) before slave result after toll) ∨
    ∃ middle first rest, toll = first + rest ∧ before.Lasting middle ∧
      bus.Lands chip.handle.address (turningTo page slave.page) before slave
        (.ok () : Except Bus.Error Unit) middle first ∧
      Runs (work bus chip.handle.address).run middle result after rest := by
  have runs := (Handle.possible_hold _ _).mp possible
  have inRange := chip.handle.inRange
  rcases (Routine.possible_bind_run _ _ _).mp runs with
    ⟨error, rfl, looked⟩ | ⟨bytes, middle, first, rest, looked, continued, rfl⟩
  · exact .inl ⟨error, rfl, (runs_readArray_lands node inRange attached looked).cut⟩
  · rcases runs_readArray node inRange attached looked with ⟨_, _, _, rfl, _⟩
    have lasting := runs_lasting looked
    have reading := runs_readArray_lands node inRange attached looked
    rw [loaded_page paged] at continued
    by_cases placed : slave.page = page
    · rw [if_neg fun differs => differs placed] at continued
      rw [turningTo, if_pos placed]
      exact .inr ⟨middle, first, rest, rfl, lasting, reading, continued⟩
    · rw [if_pos placed] at continued
      have lands : ∀ {answer : Except Bus.Error Unit} {later second},
          Runs (bus.writeArray chip.handle.address pageRegister [page] true).run middle answer
            later second →
          bus.Lands chip.handle.address (turningTo page slave.page) before slave answer later
            (first + second) := by
        intro answer later second turning
        rw [turningTo, if_neg placed, ← List.nil_append [_]]
        apply reading.trans lasting
        rintro _ present ⟨pointer, rfl⟩
        have target : ((slave.pointTo pointer).pointTo pageRegister).current =
            joinBytes slave.page pageRegister := by
          simp [Slave.current, Slave.pointTo, paged]
        have written := runs_writeArray (lasting.node.trans node) inRange present turning
        rwa [List.foldl_nil, target] at written
      rcases (Routine.possible_bind_run _ _ _).mp ((runs_note_bind _ _ _).mp continued) with
        ⟨error, rfl, turning⟩ | ⟨_, turned, second, third, turning, working, rfl⟩
      · exact .inl ⟨error, rfl, lands turning⟩
      · exact .inr ⟨turned, first + second, third, (add_assoc first second third).symm,
          lasting.trans (runs_lasting turning), lands turning, working⟩

theorem runs_onPage {chip : Si534x} {slave : Slave} {page : UInt8}
    {work : Bus → UInt8 → Bus.Action α} {later : List (UInt16 × UInt8)}
    {result : Except Bus.Error α} (node : before.node = bus.node) (paged : slave.paged = true)
    (attached : before.slave? chip.handle.address = some slave)
    (works : ∀ middle reached rest, middle.node = bus.node → reached.paged = true →
      reached.page = page → middle.slave? chip.handle.address = some reached →
      Runs (work bus chip.handle.address).run middle result after rest →
      bus.Lands chip.handle.address later middle reached result after rest)
    (possible : (chip.onPage page work).run.Possible (Handle.Served bus) before result after
      toll) :
    bus.Lands chip.handle.address (turningTo page slave.page ++ later) before slave result after
      toll := by
  rcases runs_onPage_cases node paged attached possible with
    ⟨error, rfl, lands⟩ | ⟨middle, first, rest, rfl, lasting, lands, working⟩
  · exact lands.cut
  · apply lands.trans lasting
    intro reached present wrote
    exact works middle reached rest (lasting.node.trans node) (wrote.paged.trans paged)
      (page_of_turningTo paged wrote) present working

theorem runs_writeRegister {chip : Si534x} {slave : Slave} {address : UInt16} {value : UInt8}
    {result : Except Error Unit} (node : before.node = bus.node) (paged : slave.paged = true)
    (attached : before.slave? chip.handle.address = some slave)
    (possible : (chip.writeRegister address value).run.Possible (Handle.Served bus) before result
      after toll) :
    bus.Lands chip.handle.address (plan slave.page address value) before slave result after
      toll := by
  rcases (possible_lift _ _).mp possible with ⟨answer, held, rfl⟩
  have works : ∀ middle reached rest, middle.node = bus.node → reached.paged = true →
      reached.page = highByte address → middle.slave? chip.handle.address = some reached →
      Runs (bus.writeArray chip.handle.address (lowByte address) [value] true).run middle answer
        after rest →
      bus.Lands chip.handle.address [(address, value)] middle reached answer after rest := by
    intro middle reached rest node paged placed present runs
    have target : (reached.pointTo (lowByte address)).current = address := by
      simp [Slave.current, Slave.pointTo, paged, placed]
    have written := runs_writeArray node chip.handle.inRange present runs
    rwa [target] at written
  have lands := runs_onPage node paged attached works held
  cases answer with
  | ok _ => exact lands
  | error error => exact lands

theorem usable_writeRegister {chip : Si534x} {address : UInt16} {value : UInt8}
    {result : Except Error Unit} (node : before.node = bus.node)
    (possible : (chip.writeRegister address value).run.Possible (Handle.Served bus) before result
      after toll)
    (usable : bus.Usable before) : bus.Usable after ∨ bus.Cut toll.failed := by
  rcases (possible_lift _ _).mp possible with ⟨answer, held, rfl⟩
  have runs := (Handle.possible_hold _ _).mp held
  refine (sustains_bind_run (sustains_readArray _ _ _) ?_ before answer after toll node runs).2
    usable
  intro bytes
  dsimp only
  split
  · exact sustains_note_bind (sustains_bind_run (sustains_writeBlock _ _ _) fun _ =>
      sustains_writeBlock _ _ _)
  · exact sustains_writeBlock _ _ _

end ClockBoard.Chip.Si534x
