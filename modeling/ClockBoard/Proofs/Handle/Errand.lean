import ClockBoard.Proofs.Chip.Sharing
import ClockBoard.Proofs.Handle.Tended

/-!
Users who share one register of a slave. Each has an errand: to look at the register and to put
values in it, one hold of the bus for each look and each value.

The main statements say that on a bus where nothing is about to go wrong nothing but the byte in the
register counts. The users take turns with it as their schedule says, and nobody meets an error.
-/

namespace ClockBoard

open ClockBoard.Link ClockBoard.Simulation

/-- What someone is about to do with a register. -/
inductive Errand
  | done
  | look (next : UInt8 → Errand)
  | put (value : UInt8) (rest : Errand)

namespace Errand

/-- Run an errand through a handle. Whoever meets an error gives up. -/
def routine (handle : Handle) (register : UInt8) : Errand → Routine Handle.interface Unit
  | done => .done ()
  | look next =>
      (handle.readRegister register).run.bind fun
        | .ok byte => (next byte).routine handle register
        | .error _ => .done ()
  | put value rest =>
      (handle.writeRegister register value).run.bind fun
        | .ok _ => rest.routine handle register
        | .error _ => .done ()

def store (value : UInt8) : Errand :=
  put value done

/-- Change the register by a look and a value put there in the next turn. -/
def change (make : UInt8 → UInt8) : Errand :=
  look fun byte => store (make byte)

def turn : Errand → UInt8 → Errand × UInt8
  | done, byte => (done, byte)
  | look next, byte => (next byte, byte)
  | put value rest, _ => (rest, value)

def finish : Errand → UInt8 → UInt8
  | done, byte => byte
  | look next, byte => (next byte).finish byte
  | put value rest, _ => rest.finish value

theorem finish_turn (errand : Errand) (byte : UInt8) :
    (errand.turn byte).1.finish (errand.turn byte).2 = errand.finish byte := by
  cases errand <;> rfl

theorem routine_look (handle : Handle) (register : UInt8) (next : UInt8 → Errand) :
    (look next).routine handle register =
      .ask (Handle.Request.hold fun bus => bus.readArray handle.address register 1) fun
        | .ok bytes => (next (bytes.headD 0)).routine handle register
        | .error _ => .done () := by
  have asks : (handle.readRegister register).run =
      .ask (Handle.Request.hold fun bus => bus.readArray handle.address register 1)
        (ExceptT.bindCont fun bytes => pure (bytes.headD 0)) := rfl
  rw [routine, asks, Routine.ask_bind]
  refine congrArg (Routine.ask _) (funext fun answer => ?_)
  cases answer <;> rfl

theorem routine_put (handle : Handle) (register value : UInt8) (rest : Errand) :
    (put value rest).routine handle register =
      .ask (Handle.Request.hold fun bus => bus.writeArray handle.address register [value] true) fun
        | .ok _ => rest.routine handle register
        | .error _ => .done () := by
  refine congrArg (Routine.ask _) (funext fun answer => ?_)
  cases answer <;> rfl

theorem routine_store (handle : Handle) (register value : UInt8) :
    (store value).routine handle register =
      (handle.writeRegister register value).run.bind fun _ => .done () := by
  refine congrArg (Routine.bind _) (funext fun answer => ?_)
  cases answer <;> rfl

theorem routine_eq_done_iff {errand : Errand} {handle : Handle} {register : UInt8} :
    errand.routine handle register = .done () ↔ errand = done := by
  cases errand with
  | done => exact iff_of_true rfl rfl
  | look next =>
      rw [routine_look]
      exact iff_of_false nofun nofun
  | put value rest =>
      rw [routine_put]
      exact iff_of_false nofun nofun

end Errand

abbrev Errands (ν : Type) : Type :=
  ν → Errand

namespace Errands

variable {ν : Type}

def users (errands : Errands ν) (handle : Handle) (register : UInt8) : Users ν :=
  fun user => (errands user).routine handle register

theorem users_done_iff {errands : Errands ν} {handle : Handle} {register : UInt8} :
    (∀ user, errands.users handle register user = .done ()) ↔ ∀ user, errands user = .done :=
  forall_congr' fun _ => Errand.routine_eq_done_iff

variable [DecidableEq ν]

def turn (user : ν) (errands : Errands ν) (byte : UInt8) : Errands ν × UInt8 :=
  let taken := (errands user).turn byte
  (Function.update errands user taken.1, taken.2)

def turns : (schedule : List ν) → Errands ν → UInt8 → Errands ν × UInt8
  | [], errands, byte => (errands, byte)
  | user :: rest, errands, byte =>
      let taken := turn user errands byte
      turns rest taken.1 taken.2

theorem turns_alone {user : ν} {schedule : List ν} {errands : Errands ν} {byte : UInt8}
    (alone : ∀ other, other ≠ user → errands other = .done)
    (finished : (turns schedule errands byte).1 user = .done) :
    (turns schedule errands byte).2 = (errands user).finish byte := by
  induction schedule generalizing errands byte with
  | nil =>
      change errands user = .done at finished
      rw [finished]
      rfl
  | cons next rest induction =>
      by_cases same : next = user
      · subst same
        have still : ∀ other, other ≠ next → (turn next errands byte).1 other = .done := by
          intro other different
          exact (Function.update_of_ne different _ _).trans (alone other different)
        have own : (turn next errands byte).1 next = ((errands next).turn byte).1 :=
          Function.update_self _ _ _
        calc (turns (next :: rest) errands byte).2
          _ = ((turn next errands byte).1 next).finish (turn next errands byte).2 :=
              induction still finished
          _ = (errands next).finish byte := by
              rw [own]
              exact Errand.finish_turn _ _
      · -- The turn of someone who is done changes nothing.
        have passed : turn next errands byte = (errands, byte) := by
          rw [turn, alone next same, Errand.turn, Function.update_eq_self_iff.mpr]
          exact (alone next same).symm
        rw [turns, passed] at finished ⊢
        exact induction alone finished

/-! ## Two users -/

def pair (mine other : Errand) : Errands Bool :=
  fun first => if first then mine else other

variable {mine other : Errand} {byte value : UInt8} {schedule : List Bool}
variable {make makeOther : UInt8 → UInt8}

theorem turns_mine : (pair mine other).turns (true :: schedule) byte =
    (pair (mine.turn byte).1 other).turns schedule (mine.turn byte).2 := by
  refine congrArg (fun later => turns schedule later _) (funext fun first => ?_)
  cases first <;> rfl

theorem turns_other : (pair mine other).turns (false :: schedule) byte =
    (pair mine (other.turn byte).1).turns schedule (other.turn byte).2 := by
  refine congrArg (fun later => turns schedule later _) (funext fun first => ?_)
  cases first <;> rfl

theorem finish_mine (finished : ∀ user, ((pair mine .done).turns schedule byte).1 user = .done) :
    ((pair mine .done).turns schedule byte).2 = mine.finish byte :=
  turns_alone (fun first different => by simp [pair, different]) (finished true)

theorem finish_other (finished : ∀ user, ((pair .done other).turns schedule byte).1 user = .done) :
    ((pair .done other).turns schedule byte).2 = other.finish byte :=
  turns_alone (fun first different => by simp [pair, different]) (finished false)

/-- A change and a value that somebody else puts there. If the value comes in between the two turns
of the change, it is lost. -/
theorem change_store
    (finished : ∀ user,
      ((pair (.change make) (.store value)).turns schedule byte).1 user = .done) :
    let final := ((pair (.change make) (.store value)).turns schedule byte).2
    [true, false] <+: schedule ∧ final = make byte ∨
      ¬[true, false] <+: schedule ∧ (final = value ∨ final = make value) := by
  rcases schedule with _ | ⟨_ | _, rest⟩
  · exact nomatch finished true
  · rw [turns_other] at finished ⊢
    exact .inr ⟨by simp, .inr (finish_mine finished)⟩
  · rw [turns_mine] at finished ⊢
    rcases rest with _ | ⟨_ | _, rest⟩
    · exact nomatch finished true
    · rw [turns_other] at finished ⊢
      exact .inl ⟨by simp, finish_mine finished⟩
    · rw [turns_mine] at finished ⊢
      exact .inr ⟨by simp, .inl (finish_other finished)⟩

theorem store_store {first second : UInt8}
    (finished : ∀ user,
      ((pair (.store first) (.store second)).turns schedule byte).1 user = .done) :
    let final := ((pair (.store first) (.store second)).turns schedule byte).2
    final = first ∨ final = second := by
  rcases schedule with _ | ⟨_ | _, rest⟩
  · exact nomatch finished true
  · rw [turns_other] at finished ⊢
    exact .inl (finish_mine finished)
  · rw [turns_mine] at finished ⊢
    exact .inr (finish_other finished)

theorem change_change
    (finished : ∀ user,
      ((pair (.change make) (.change makeOther)).turns schedule byte).1 user = .done) :
    let final := ((pair (.change make) (.change makeOther)).turns schedule byte).2
    (final = make byte ∨ final = make (makeOther byte)) ∨
      (final = makeOther byte ∨ final = makeOther (make byte)) := by
  rcases schedule with _ | ⟨_ | _, rest⟩
  · exact nomatch finished true
  · rw [turns_other] at finished ⊢
    rcases rest with _ | ⟨_ | _, rest⟩
    · exact nomatch finished true
    · rw [turns_other] at finished ⊢
      exact .inl (.inr (finish_mine finished))
    · rw [turns_mine] at finished ⊢
      exact (store_store finished).imp .inl .inl
  · rw [turns_mine] at finished ⊢
    rcases rest with _ | ⟨_ | _, rest⟩
    · exact nomatch finished true
    · rw [turns_other] at finished ⊢
      exact (store_store finished).imp .inl .inl
    · rw [turns_mine] at finished ⊢
      exact .inr (.inr (finish_other finished))

end Errands

theorem Users.turn_hold {ν σ α : Type} [DecidableEq ν] [Transport σ] {bus : Bus} {user : ν}
    {users : Users ν} {work : Bus → Bus.Action α}
    {next : Except Bus.Error α → Routine Handle.interface Unit} (board : Board σ)
    (asks : users user = .ask (Handle.Request.hold work) next) :
    Users.turn bus user users board =
      (Function.update users user (next (board.run (work bus).run).1),
        (board.run (work bus).run).2) := by
  rw [Users.turn, asks]
  rfl

theorem Handle.run_ask_hold {σ α β : Type} [Transport σ] (bus : Bus)
    (work : Bus → Bus.Action α) (next : Except Bus.Error α → Routine Handle.interface β)
    (board : Board σ) :
    let asking : Routine Handle.interface β := .ask (Handle.Request.hold work) next
    let held := board.run (work bus).run
    board.run (asking.carryOut (Handle.carry bus false)) =
      held.2.run ((next held.1).carryOut (Handle.carry bus false)) :=
  Routine.run_bind _ _ _ _

/-! ## On the bus -/

/-- A bus and the board below it when nothing is about to go wrong, with a byte in a register of a
slave that has no pages. -/
structure Bus.Offers (bus : Bus) (handle : Handle) (register : UInt8) (board : Board Circuit)
    (byte : UInt8) : Prop where
  polls : 1 ≤ bus.config.pollAttempts
  free : board.access = .free
  node : board.transport.node = bus.node
  usable : bus.Usable board.transport
  progress : board.transport.status.transferInProgress = false
  stalls : board.transport.stalls = 0
  losses : board.transport.losses = 0
  attached : ∃ slave, board.transport.slave? handle.address = some slave ∧
    slave.Flat ∧ slave.refusals = 0 ∧ slave.file.cells register = byte

namespace Bus.Offers

variable {bus : Bus} {handle : Handle} {register byte : UInt8} {board : Board Circuit}

theorem fresh (polls : 1 ≤ bus.config.pollAttempts) (usable : bus.Usable (.ofNode bus.node)) :
    bus.Offers handle register
      (.ofTransport ((Circuit.ofNode bus.node).attach handle.address .flat)) 0 := by
  have flat : Slave.flat.Flat := by simp [Slave.Flat, Slave.shape, Slave.flat, Slave.zeroed]
  have zero : Slave.flat.file.cells register = 0 := by
    rw [flat.cell]
    simp [Slave.flat, Slave.zeroed, register.toNat_lt]
  exact ⟨polls, rfl, rfl, usable, rfl, rfl, rfl, .flat,
    (Table.get?_insert _ _ _ _).trans (if_pos rfl), flat, rfl, zero⟩

theorem tends (offers : bus.Offers handle register board byte) :
    ∃ file, bus.Tends handle board file ∧ file.cells register = byte := by
  rcases offers with ⟨polls, free, node, usable, progress, stalls, losses, slave, attached, flat,
    willing, held⟩
  exact ⟨slave.file,
    ⟨polls, free, node, usable, progress, stalls, losses, slave, attached, flat, willing, rfl⟩,
    held⟩

theorem of_tends {file : ByteFile} (tends : bus.Tends handle board file)
    (held : file.cells register = byte) : bus.Offers handle register board byte := by
  rcases tends with ⟨polls, free, node, usable, progress, stalls, losses, slave, attached, flat,
    willing, rfl⟩
  exact ⟨polls, free, node, usable, progress, stalls, losses, slave, attached, flat, willing, held⟩

theorem look (offers : bus.Offers handle register board byte) :
    let ran := board.run (bus.readArray handle.address register 1).run
    ran.1 = .ok [byte] ∧ bus.Offers handle register ran.2 byte := by
  rcases offers.tends with ⟨file, tends, rfl⟩
  rcases tends.look register with ⟨went, still, _⟩
  exact ⟨went, of_tends still rfl⟩

theorem put (offers : bus.Offers handle register board byte) (value : UInt8) :
    let ran := board.run (bus.writeArray handle.address register [value] true).run
    ran.1 = .ok () ∧ bus.Offers handle register ran.2 value := by
  rcases offers.tends with ⟨file, tends, _⟩
  rcases tends.put register value with ⟨went, still, _⟩
  exact ⟨went, of_tends still (Function.update_self _ _ _)⟩

theorem turn {ν : Type} [DecidableEq ν] (offers : bus.Offers handle register board byte)
    (user : ν) (errands : Errands ν) :
    ∃ after, Users.turn bus user (errands.users handle register) board =
        ((errands.turn user byte).1.users handle register, after) ∧
      bus.Offers handle register after (errands.turn user byte).2 := by
  have updated : ∀ errand : Errand,
      Errands.users (Function.update errands user errand) handle register =
        Function.update (errands.users handle register) user
          (errand.routine handle register) :=
    fun errand => Function.comp_update (Errand.routine handle register) errands user errand
  have own : ∀ errand, errands user = errand →
      errands.users handle register user = errand.routine handle register :=
    fun errand equal => congrArg (Errand.routine handle register) equal
  unfold Errands.turn
  cases errand : errands user with
  | done =>
      refine ⟨board, ?_, offers⟩
      have still : Function.update errands user .done = errands :=
        Function.update_eq_self_iff.mpr errand.symm
      have idle := own _ errand
      rw [Errand.routine] at idle
      rw [Users.turn, idle]
      exact congrArg (fun errands => (Errands.users errands handle register, board)) still.symm
  | look next =>
      rcases offers.look with ⟨saw, still⟩
      refine ⟨_, ?_, still⟩
      rw [Users.turn_hold board ((own _ errand).trans (Errand.routine_look _ _ _)), saw, updated]
      rfl
  | put value rest =>
      rcases offers.put value with ⟨went, still⟩
      refine ⟨_, ?_, still⟩
      rw [Users.turn_hold board ((own _ errand).trans (Errand.routine_put _ _ _ _)), went, updated]
      rfl

/-- What becomes of the register is what becomes of the byte, whoever has the turns. -/
theorem turns {ν : Type} [DecidableEq ν] (offers : bus.Offers handle register board byte)
    (schedule : List ν) (errands : Errands ν) :
    ∃ after, Users.turns bus schedule (errands.users handle register) board =
        ((errands.turns schedule byte).1.users handle register, after) ∧
      bus.Offers handle register after (errands.turns schedule byte).2 := by
  induction schedule generalizing errands board byte with
  | nil => exact ⟨board, rfl, offers⟩
  | cons user rest induction =>
      rcases offers.turn user errands with ⟨middle, taken, still⟩
      rw [Users.turns, taken]
      exact induction still _

theorem finish (offers : bus.Offers handle register board byte) (errand : Errand) :
    bus.Offers handle register
      (board.run ((errand.routine handle register).carryOut (Handle.carry bus false))).2
      (errand.finish byte) := by
  induction errand generalizing board byte with
  | done => exact offers
  | look next induction =>
      rcases offers.look with ⟨saw, still⟩
      rw [Errand.routine_look, Handle.run_ask_hold, saw]
      exact induction byte still
  | put value rest induction =>
      rcases offers.put value with ⟨went, still⟩
      rw [Errand.routine_put, Handle.run_ask_hold, went]
      exact induction still

end Bus.Offers

end ClockBoard
