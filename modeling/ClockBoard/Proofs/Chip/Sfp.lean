import ClockBoard.Chip.Sfp
import ClockBoard.Proofs.Handle.Errand

/-!
The switch of a transmitter is one bit of a register that others may write too. It is set by a look
at the register in one hold of the bus and a value put there in the next, so that somebody else may
come in between.

The main statement says when the two users of a module leave the register as if one of them had come
after the other: always, unless a write comes in between that changes another bit. Then the other
bits of that write are lost.
-/

namespace ClockBoard.Chip.Sfp

open ClockBoard.Link ClockBoard.Simulation

/-! ## The switch -/

def switched (disable : Bool) (byte : UInt8) : UInt8 :=
  (byte &&& 0xBF) ||| (if disable then 0x40 else 0)

theorem switched_rest (disable : Bool) (byte : UInt8) :
    switched disable byte &&& 0xBF = byte &&& 0xBF := by
  have bits : ∀ index : Fin 256, ∀ disable : Bool,
      switched disable (.ofFin index) &&& 0xBF = .ofFin index &&& 0xBF := by
    decide +kernel
  exact bits byte.toFin disable

theorem switched_eq_iff {disable : Bool} {byte value : UInt8} :
    switched disable byte = switched disable value ↔ value &&& 0xBF = byte &&& 0xBF := by
  constructor
  · intro same
    rw [← switched_rest disable value, ← same, switched_rest]
  · intro same
    rw [switched, switched, same]

theorem switched_switched (disable earlier : Bool) (byte : UInt8) :
    switched disable (switched earlier byte) = switched disable byte :=
  switched_eq_iff.mpr (switched_rest earlier byte).symm

theorem encode_switched (disable : Bool) (byte : UInt8) :
    let layout := StatusControl.placed.layout
    Layout.bytesOf 1 (layout.encode { layout.decode (Layout.ofBytes [byte]) with
      softTxDisable := disable }) = [switched disable byte] := by
  have bits : ∀ index : Fin 256, ∀ disable : Bool,
      let layout := StatusControl.placed.layout
      Layout.bytesOf 1 (layout.encode { layout.decode (Layout.ofBytes [.ofFin index]) with
        softTxDisable := disable }) = [switched disable (.ofFin index)] := by
    decide +kernel
  exact bits byte.toFin disable

def control? (board : Board Circuit) : Option UInt8 :=
  (board.transport.slave? diagnosticsPage.address).map fun slave =>
    slave.get StatusControl.placed.register.toUInt16

theorem control?_offers {bus : Bus} {board : Board Circuit} {byte : UInt8}
    (offers : bus.Offers diagnosticsPage StatusControl.placed.register board byte) :
    control? board = some byte := by
  rcases offers.attached with ⟨slave, attached, _, _, held⟩
  rw [control?, attached]
  exact congrArg some held

/-! ## Two users -/

inductive Task
  | write (value : UInt8)
  | switch (disable : Bool)

namespace Task

def routine : Task → Routine Handle.interface Unit
  | .write value =>
      (diagnosticsPage.writeRegister StatusControl.placed.register value).run.bind
        fun _ => .done ()
  | .switch disable => (setTxDisable disable).run.bind fun _ => .done ()

def errand : Task → Errand
  | .write value => .store value
  | .switch disable => .change (switched disable)

theorem routine_eq (task : Task) :
    task.routine = task.errand.routine diagnosticsPage StatusControl.placed.register := by
  cases task with
  | write value => exact (Errand.routine_store _ _ _).symm
  | switch disable =>
      rw [errand, Errand.change, Errand.routine_look]
      change (Routine.ask (Handle.Request.hold _) _ : Routine Handle.interface Unit) = _
      refine congrArg (Routine.ask _) (funext fun answer => ?_)
      cases answer with
      | error error => rfl
      | ok bytes =>
          -- What was looked up is unpacked, and packed again with the switch as it is wanted.
          have packed := congrArg (List.headD · 0) (encode_switched disable (bytes.headD 0))
          exact (congrArg (fun byte => Task.routine (.write byte)) packed).trans
            (Errand.routine_store _ _ _).symm

end Task

def users (mine other : Task) : Users Bool :=
  fun first => if first then mine.routine else other.routine

theorem users_eq (mine other : Task) :
    users mine other = (Errands.pair mine.errand other.errand).users diagnosticsPage
      StatusControl.placed.register := by
  funext first
  cases first
  · exact other.routine_eq
  · exact mine.routine_eq

/-- What the register holds after two users, one of whom comes after the other. -/
def serial? (bus : Bus) (board : Board Circuit) (first second : Task) : Option UInt8 :=
  let both := first.routine.bind fun _ => second.routine
  control? (board.run (both.carryOut (Handle.carry bus false))).2

variable {bus : Bus} {board : Board Circuit} {start : UInt8}

theorem serial?_offers
    (offers : bus.Offers diagnosticsPage StatusControl.placed.register board start)
    (first second : Task) :
    serial? bus board first second = some (second.errand.finish (first.errand.finish start)) := by
  have both := (offers.finish first.errand).finish second.errand
  rw [← Task.routine_eq, ← Task.routine_eq] at both
  rw [serial?, Board.run, Routine.carryOut_bind, Routine.run_bind]
  exact control?_offers both

theorem done_between
    (offers : bus.Offers diagnosticsPage StatusControl.placed.register board start)
    (disable : Bool) (value : UInt8) (user : Bool) :
    (Users.turns bus [true, false, true] (users (.switch disable) (.write value)) board).1 user =
      .done () := by
  rcases offers.turns [true, false, true] (Errands.pair (Task.switch disable).errand
    (Task.write value).errand) with ⟨after, ran, _⟩
  rw [users_eq, ran]
  cases user <;> rfl

/-- Two users of a module, one of whom sets the switch, leave the register as if one had come after
the other unless a write that changes another bit comes between the two turns of the switch. -/
theorem setTxDisable_serial_iff (disable : Bool) (other : Task) (schedule : List Bool)
    (offers : bus.Offers diagnosticsPage StatusControl.placed.register board start)
    (finished : ∀ user, (Users.turns bus schedule (users (.switch disable) other) board).1 user =
      .done ()) :
    let final := control? (Users.turns bus schedule (users (.switch disable) other) board).2
    (final = serial? bus board (.switch disable) other ∨
        final = serial? bus board other (.switch disable) ↔
      ∀ value, other = .write value → [true, false] <+: schedule →
        value &&& 0xBF = start &&& 0xBF) ∧
    ∀ value, other = .write value → [true, false] <+: schedule →
      final = some (switched disable start) := by
  intro final
  rw [serial?_offers offers, serial?_offers offers]
  rcases offers.turns schedule (Errands.pair (Task.switch disable).errand other.errand) with
    ⟨after, ran, still⟩
  rw [users_eq, ran, Errands.users_done_iff] at finished
  have ends : final = some ((Errands.pair (Task.switch disable).errand other.errand).turns
      schedule start).2 := by
    rw [← control?_offers still]
    exact congrArg (fun taken => control? taken.2) ((users_eq _ _).symm ▸ ran)
  rw [ends]
  simp only [Option.some.injEq]
  cases other with
  | write value =>
      rcases Errands.change_store finished with ⟨between, lost⟩ | ⟨apart, kept⟩
      · refine ⟨⟨?_, ?_⟩, fun _ _ _ => lost⟩
        · rintro same _ ⟨rfl⟩ _
          rcases same with first | last
          · exact (congrArg (· &&& 0xBF) (first.symm.trans lost)).trans (switched_rest _ _)
          · exact switched_eq_iff.mp (lost.symm.trans last)
        · intro alike
          exact .inr (lost.trans (switched_eq_iff.mpr (alike value rfl between)))
      · exact ⟨iff_of_true kept fun _ _ between => absurd between apart,
          fun _ _ between => absurd between apart⟩
  | switch enable =>
      have serial := Errands.change_change finished
      simp only [switched_switched, or_self] at serial
      refine ⟨iff_of_true ?_ nofun, nofun⟩
      rcases serial with mine | theirs
      · exact .inr (mine.trans (switched_switched disable enable start).symm)
      · exact .inl (theirs.trans (switched_switched enable disable start).symm)

theorem setTxDisable_serial_of_switch :
    let bus : Bus := { node := "i2c", config := {}, slaves := .empty }
    let board := Board.ofTransport ((Circuit.ofNode "i2c").attach 0x51 .flat)
    let final := control? (Users.turns bus [true, false, true]
      (users (.switch true) (.write 0x40)) board).2
    final = serial? bus board (.switch true) (.write 0x40) ∨
      final = serial? bus board (.write 0x40) (.switch true) := by
  intro bus board final
  have offers : bus.Offers diagnosticsPage StatusControl.placed.register board 0 :=
    .fresh (by decide) (.inr (by decide))
  refine (setTxDisable_serial_iff true (.write 0x40) [true, false, true] offers
    (done_between offers _ _)).1.mpr ?_
  rintro _ ⟨rfl⟩ _
  decide

/-- A write that comes between the two turns of the switch and is lost: both users come to their
end, and the register holds what neither order of the two leaves there. -/
theorem setTxDisable_loses_write :
    let bus : Bus := { node := "i2c", config := {}, slaves := .empty }
    let board := Board.ofTransport ((Circuit.ofNode "i2c").attach 0x51 .flat)
    let ran := Users.turns bus [true, false, true] (users (.switch true) (.write 0x41)) board
    control? board = some 0 ∧ (∀ user, ran.1 user = .done ()) ∧ control? ran.2 = some 0x40 ∧
      serial? bus board (.switch true) (.write 0x41) = some 0x41 ∧
      serial? bus board (.write 0x41) (.switch true) = some 0x41 := by
  intro bus board ran
  have offers : bus.Offers diagnosticsPage StatusControl.placed.register board 0 :=
    .fresh (by decide) (.inr (by decide))
  exact ⟨control?_offers offers, done_between offers _ _, by decide +kernel +zetaReduce,
    by decide +kernel +zetaReduce, by decide +kernel +zetaReduce⟩

end ClockBoard.Chip.Sfp
