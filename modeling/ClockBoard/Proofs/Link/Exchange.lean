import ClockBoard.Link.Board
import ClockBoard.Proofs.Routine.Coupled

/-!
The round trips that a routine makes on a board. Answers to them are all that a routine learns of a
board, so that a law about its round trips holds whatever the transport does.

The main statements say that the round trips of one action after another are those of the first and
then, unless it fails, those of the second, and that what is taken note of makes no difference to
them.
-/

namespace ClockBoard.Link

structure Exchange where
  operations : List Operation
  answer : Except Error (List UInt32)

def Exchange.passed (exchange : Exchange) : Bool :=
  exchange.answer.isOk

variable {σ α β ε : Type} [Transport σ]

def Board.exchanges : Routine interface α → Board σ → List Exchange
  | .done _, _ => []
  | .ask (.exchange operations) next, board =>
      let served := board.serve (.exchange operations)
      ⟨operations, served.1⟩ :: exchanges (next served.1) served.2
  | .ask (.note event) next, board => exchanges (next ()) (board.serve (.note event)).2

theorem Board.exchanges_bind (routine : Routine interface α) (next : α → Routine interface β)
    (board : Board σ) :
    board.exchanges (routine.bind next) =
      board.exchanges routine ++
        (board.run routine).2.exchanges (next (board.run routine).1) := by
  induction routine generalizing board with
  | done value => rfl
  | ask request rest induction =>
      cases request with
      | exchange operations => exact congrArg (List.cons _) (induction _ _)
      | note event => exact induction _ _

theorem Board.run_access (routine : Routine interface α) (board : Board σ) :
    (board.run routine).2.access = board.access := by
  induction routine generalizing board with
  | done value => rfl
  | ask request rest induction =>
      refine (induction _ _).trans ?_
      rcases board with ⟨transport, access, staged, events⟩
      cases request with
      | note event => rfl
      | exchange operations => cases access <;> rfl

def Board.silent (board : Board σ) : Board σ :=
  { board with events := #[] }

theorem Board.run_silent (routine : Routine interface α) {one two : Board σ}
    (same : one.silent = two.silent) :
    one.exchanges routine = two.exchanges routine ∧ (one.run routine).1 = (two.run routine).1 ∧
      (one.run routine).2.silent = (two.run routine).2.silent := by
  induction routine generalizing one two with
  | done value => exact ⟨rfl, rfl, same⟩
  | ask request next induction =>
      cases request with
      | note event => exact induction () same
      | exchange operations =>
          have served : (one.serve (.exchange operations)).1 =
                (two.serve (.exchange operations)).1 ∧
              (one.serve (.exchange operations)).2.silent =
                (two.serve (.exchange operations)).2.silent := by
            obtain ⟨transport, access, staged, events⟩ := one
            obtain ⟨_, _, _, others⟩ := two
            cases same
            cases access <;> exact ⟨rfl, rfl⟩
          have rest := induction (one.serve (.exchange operations)).1 served.2
          simp only [Board.exchanges, Board.run, Routine.run, served.1] at rest ⊢
          exact ⟨congrArg (List.cons _) rest.1, rest.2⟩

/-- Whether routines make the same round trips on boards, with the same answers, and leave boards
that differ at most in what was taken note of. -/
structure SameTrips (first : Routine interface α) (one : Board σ) (second : Routine interface β)
    (two : Board σ) : Prop where
  exchanges : one.exchanges first = two.exchanges second
  silent : (one.run first).2.silent = (two.run second).2.silent

namespace SameTrips

variable {γ δ : Type} {first : Routine interface α} {second : Routine interface β}
variable {one two : Board σ}

theorem refl (routine : Routine interface α) (same : one.silent = two.silent) :
    SameTrips routine one routine two :=
  have ran := Board.run_silent routine same
  ⟨ran.1, ran.2.2⟩

theorem done (value : α) (other : β) (same : one.silent = two.silent) :
    SameTrips (.done value) one (.done other) two :=
  ⟨rfl, same⟩

theorem bind {next : α → Routine interface γ} {later : β → Routine interface δ}
    (same : SameTrips first one second two)
    (rest : SameTrips (next (one.run first).1) (one.run first).2 (later (two.run second).1)
      (two.run second).2) :
    SameTrips (first.bind next) one (second.bind later) two where
  exchanges := by
    rw [Board.exchanges_bind, Board.exchanges_bind, same.exchanges, rest.exchanges]
  silent := by
    rw [Board.run, Board.run, Routine.run_bind, Routine.run_bind]
    exact rest.silent

theorem skip {other : γ} {next : α → Routine interface δ}
    (none : SameTrips first one (.done other) two)
    (rest : SameTrips (next (one.run first).1) (one.run first).2 second two) :
    SameTrips (first.bind next) one second two :=
  have passed : SameTrips (first.bind next) one
      ((.done other : Routine interface γ).bind fun _ => second) two := none.bind rest
  passed

theorem map (same : SameTrips first one second two) (view : α → γ) :
    SameTrips (first.bind fun value => .done (view value)) one second two := by
  have ends : SameTrips (.done (view (one.run first).1)) (one.run first).2
      (.done (two.run second).1) (two.run second).2 := done _ _ same.silent
  rw [← Routine.bind_done second]
  exact same.bind ends

end SameTrips

/-- Whether an action makes certain round trips on a board and comes to a result, with what becomes
of the board. -/
structure Makes (action : ExceptT ε (Routine interface) α) (board : Board σ)
    (exchanged : List Exchange) (result : Except ε α) (later : Board σ) : Prop where
  run : board.run action.run = (result, later)
  exchanges : board.exchanges action.run = exchanged

namespace Makes

variable {action : ExceptT ε (Routine interface) α} {next : α → ExceptT ε (Routine interface) β}
variable {board middle later : Board σ} {first rest : List Exchange} {result : Except ε β}

theorem bind_ok {value : α} (one : Makes action board first (.ok value) middle)
    (two : Makes (next value) middle rest result later) :
    Makes (action >>= next) board (first ++ rest) result later where
  run := (Routine.run_bind_ok one.run).trans two.run
  exchanges := by
    apply (board.exchanges_bind action.run (ExceptT.bindCont next)).trans
    rw [one.run, one.exchanges]
    exact congrArg (first ++ ·) two.exchanges

theorem bind_error {error : ε} (one : Makes action board first (.error error) later) :
    Makes (action >>= next) board first (.error error) later where
  run := Routine.run_bind_error one.run
  exchanges := by
    apply (board.exchanges_bind action.run (ExceptT.bindCont next)).trans
    rw [one.run, one.exchanges]
    exact List.append_nil first

end Makes

end ClockBoard.Link
