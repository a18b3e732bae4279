import Mathlib.Data.Nat.Bits
import ClockBoard.Bus.Command
import ClockBoard.Proofs.Routine.Coupled

/-!
A wait for the end of a transfer is decided by the first conclusive answer to a status read: an
error, lost arbitration, or a status that shows no transfer in progress. It reads the status that
often and does nothing else, whatever the transport answers.
-/

namespace ClockBoard.Link.Board

variable {σ : Type}

def noting (board : Board σ) (events : List Event) : Board σ :=
  { board with events := board.events ++ events.toArray }

@[simp] theorem noting_nil (board : Board σ) : board.noting [] = board := by
  simp [noting]

theorem noting_singleton (board : Board σ) (event : Event) :
    board.noting [event] = { board with events := board.events.push event } := by
  simp [noting]

@[simp] theorem noting_noting (board : Board σ) (first rest : List Event) :
    (board.noting first).noting rest = board.noting (first ++ rest) := by
  simp [noting, Array.append_assoc]

variable [Transport σ]

theorem serve_noting (operations : List Operation) (board : Board σ) (events : List Event) :
    (board.noting events).serve (.exchange operations) =
      ((board.serve (.exchange operations)).1,
        (board.serve (.exchange operations)).2.noting events) := by
  rcases board with ⟨transport, access, staged, noted⟩
  cases access <;> rfl

theorem serve_staged (operations : List Operation) (board : Board σ) :
    (board.serve (.exchange operations)).2.staged = board.staged + 1 := by
  rcases board with ⟨transport, access, staged, noted⟩
  cases access <;> rfl

end ClockBoard.Link.Board

namespace ClockBoard.Bus

open ClockBoard.Core ClockBoard.Link

/-! ## Answers -/

def statusIn : Except Link.Error (List UInt32) → Except Error UInt32
  | .ok (word :: _) => .ok word
  | .ok [] => .error (.link .unresolvedRead)
  | .error error => .error (.link error)

/-- Whether a wait ends with an answer. In a status word, bit 5 tells that arbitration was lost, and
bit 1 that a transfer is in progress. -/
def conclusive : Except Error UInt32 → Bool
  | .ok word => word.toNat.testBit 5 || !word.toNat.testBit 1
  | .error _ => true

/-- What a wait that ends with an answer comes to. In a status word, bit 7 tells that the byte was
not acknowledged, and bit 6 that the bus is busy. -/
def verdict (needAck needIdle : Bool) : Except Error UInt32 → Except Error Unit
  | .ok word =>
      if word.toNat.testBit 5 then .error .arbitrationLost
      else if needAck && word.toNat.testBit 7 then .error .noAcknowledge
      else if needIdle && word.toNat.testBit 6 then .error .stillBusy
      else .ok ()
  | .error error => .error error

def pollEvent? (bus : Bus) (attempt : Nat) : Except Error UInt32 → Option Event
  | .ok word =>
      some
        { level := .trace
          message := "I2C status poll"
          fields :=
            [ ("node", .text bus.node),
              ("attempt", .number attempt),
              ("status", .text (Status.layout.ofWord word).text) ] }
  | .error _ => none

theorem status_ofWord (word : UInt32) :
    Status.layout.ofWord word =
      { rxNack := word.toNat.testBit 7
        busy := word.toNat.testBit 6
        arbitrationLost := word.toNat.testBit 5
        transferInProgress := word.toNat.testBit 1
        interrupt := word.toNat.testBit 0 } := by
  have flag (bit : Nat) :
      ((word.toNat >>> bit) % (1 <<< 1) % 2 == 1) = word.toNat.testBit bit := by
    rw [Nat.testBit_eq_decide_div_mod_eq, Nat.shiftRight_eq_div_pow]
    change (word.toNat / 2 ^ bit % 2 % 2 == 1) = _
    rw [Nat.mod_mod]
    rfl
  simp only [Status.layout, Layout.ofWord, Layout.decode, List.foldl_cons, List.foldl_nil,
    Layout.Field.flag, Layout.Field.extract, Layout.Field.capacity, flag]

theorem conclusive_ok (word : UInt32) :
    conclusive (.ok word) =
      let shown := Status.layout.ofWord word
      shown.arbitrationLost || !shown.transferInProgress := by
  rw [status_ofWord]
  rfl

theorem verdict_ok (needAck needIdle : Bool) (word : UInt32) :
    verdict needAck needIdle (.ok word) =
      let shown := Status.layout.ofWord word
      if shown.arbitrationLost then .error .arbitrationLost
      else outcome needAck needIdle shown := by
  rw [status_ofWord]
  simp [verdict, outcome, Status.ackReceived]

variable {σ : Type} [Transport σ]

/-- The board after a number of status reads, each of them a batch of its own. -/
def polled (bus : Bus) : (reads : Nat) → Board σ → Board σ
  | 0, board => board
  | reads + 1, board =>
      bus.polled reads (board.serve (.exchange [.read (bus.path .command)])).2

/-- The answer to a status read that has a number of others before it. -/
def statusAnswer (bus : Bus) (board : Board σ) (index : Nat) : Except Error UInt32 :=
  statusIn ((bus.polled index board).serve (.exchange [.read (bus.path .command)])).1

theorem polled_noting (bus : Bus) (reads : Nat) (board : Board σ) (events : List Event) :
    bus.polled reads (board.noting events) = (bus.polled reads board).noting events := by
  induction reads generalizing board with
  | zero => rfl
  | succ reads induction => rw [polled, Board.serve_noting, induction, polled]

theorem statusAnswer_noting (bus : Bus) (board : Board σ) (events : List Event) (index : Nat) :
    bus.statusAnswer (board.noting events) index = bus.statusAnswer board index := by
  rw [statusAnswer, polled_noting, Board.serve_noting, statusAnswer]

theorem polled_staged (bus : Bus) (reads : Nat) (board : Board σ) :
    (bus.polled reads board).staged = board.staged + reads := by
  induction reads generalizing board with
  | zero => rfl
  | succ reads induction =>
      rw [polled, induction, Board.serve_staged]
      omega

/-! ## Waits -/

theorem readStatus_run_eq (bus : Bus) (board : Board σ) :
    board.run (bus.readRegister .command).run =
      (bus.statusAnswer board 0, bus.polled 1 board) := by
  let served := board.serve (.exchange [.read (bus.path .command)])
  have exchanged : board.run (exchange [.read (bus.path .command)]).run =
      (served.1.mapError .link, served.2) := rfl
  have answered : bus.statusAnswer board 0 = statusIn served.1 := rfl
  have reached : bus.polled 1 board = served.2 := rfl
  rw [answered, reached]
  cases answer : served.1 with
  | error error =>
      rw [answer] at exchanged
      exact Routine.run_bind_error exchanged
  | ok values =>
      rw [answer] at exchanged
      refine (Routine.run_bind_ok exchanged).trans ?_
      cases values <;> rfl

theorem note_bind_run_eq {α : Type} (board : Board σ) (event : Event) (next : Unit → Action α) :
    board.run ((liftM (Link.note event) : Action Unit) >>= next).run =
      (board.noting [event]).run (next ()).run := by
  rw [Board.noting_singleton]
  rfl

theorem poll_succ_run_eq (bus : Bus) (board : Board σ) (needAck needIdle : Bool)
    (attempt left : Nat) :
    board.run (bus.poll needAck needIdle attempt (left + 1)).run =
      let answer := bus.statusAnswer board 0
      let noted := (bus.polled 1 board).noting (bus.pollEvent? attempt answer).toList
      if conclusive answer then (verdict needAck needIdle answer, noted)
      else noted.run (bus.poll needAck needIdle (attempt + 1) left).run := by
  have read := bus.readStatus_run_eq board
  cases answer : bus.statusAnswer board 0 with
  | error error =>
      rw [answer] at read
      refine (Routine.run_bind_error read).trans ?_
      simp [conclusive, verdict, pollEvent?]
  | ok word =>
      rw [answer] at read
      apply (Routine.run_bind_ok read).trans
      apply (note_bind_run_eq _ _ _).trans
      simp only [conclusive_ok, verdict_ok, pollEvent?, Option.toList_some]
      cases (Status.layout.ofWord word).arbitrationLost with
      | true => rfl
      | false =>
          cases (Status.layout.ofWord word).transferInProgress with
          | true => rfl
          | false => rfl

def pollEvents (bus : Bus) (board : Board σ) (attempt reads : Nat) : List Event :=
  (List.range reads).filterMap fun index =>
    bus.pollEvent? (attempt + index) (bus.statusAnswer board index)

def firstConclusive? (bus : Bus) (board : Board σ) (attempts : Nat) : Option Nat :=
  (List.range attempts).find? fun index => conclusive (bus.statusAnswer board index)

theorem statusAnswer_succ (bus : Bus) (board : Board σ) (index : Nat) :
    bus.statusAnswer board (index + 1) = bus.statusAnswer (bus.polled 1 board) index := rfl

theorem firstConclusive?_succ (bus : Bus) (board : Board σ) (attempts : Nat) :
    bus.firstConclusive? board (attempts + 1) =
      if conclusive (bus.statusAnswer board 0) then some 0
      else (bus.firstConclusive? (bus.polled 1 board) attempts).map (· + 1) := by
  rw [firstConclusive?, List.range_succ_eq_map, List.find?_cons, List.find?_map]
  cases conclusive (bus.statusAnswer board 0) <;> rfl

theorem pollEvents_succ (bus : Bus) (board : Board σ) (attempt reads : Nat) :
    bus.pollEvents board attempt (reads + 1) =
      (bus.pollEvent? attempt (bus.statusAnswer board 0)).toList ++
        bus.pollEvents (bus.polled 1 board) (attempt + 1) reads := by
  have later (index : Nat) :
      bus.pollEvent? (attempt + (index + 1)) (bus.statusAnswer board (index + 1)) =
        bus.pollEvent? (attempt + 1 + index) (bus.statusAnswer (bus.polled 1 board) index) := by
    rw [statusAnswer_succ, Nat.add_assoc, Nat.add_comm 1 index]
  rw [pollEvents, List.range_succ_eq_map, List.filterMap_cons, List.filterMap_map, pollEvents]
  simp only [Function.comp_def, Nat.succ_eq_add_one, later]
  cases bus.pollEvent? attempt (bus.statusAnswer board 0) <;> rfl

theorem firstConclusive?_noting (bus : Bus) (board : Board σ) (events : List Event)
    (attempts : Nat) :
    bus.firstConclusive? (board.noting events) attempts = bus.firstConclusive? board attempts := by
  simp only [firstConclusive?, statusAnswer_noting]

theorem pollEvents_noting (bus : Bus) (board : Board σ) (events : List Event)
    (attempt reads : Nat) :
    bus.pollEvents (board.noting events) attempt reads = bus.pollEvents board attempt reads := by
  simp only [pollEvents, statusAnswer_noting]

theorem poll_run_eq (bus : Bus) (needAck needIdle : Bool) (attempt left : Nat) (board : Board σ) :
    board.run (bus.poll needAck needIdle attempt left).run =
      let first := bus.firstConclusive? board left
      let reads := first.elim left (· + 1)
      (first.elim (.error (.timeout bus.config.pollAttempts)) fun index =>
          verdict needAck needIdle (bus.statusAnswer board index),
        (bus.polled reads board).noting (bus.pollEvents board attempt reads)) := by
  induction left generalizing attempt board with
  | zero => exact Prod.ext rfl (Board.noting_nil board).symm
  | succ left induction =>
      rw [poll_succ_run_eq, firstConclusive?_succ]
      cases ends : conclusive (bus.statusAnswer board 0) with
      | true =>
          have once : bus.pollEvents board attempt 1 =
              (bus.pollEvent? attempt (bus.statusAnswer board 0)).toList :=
            (bus.pollEvents_succ board attempt 0).trans (List.append_nil _)
          simp only [ends, if_true, Option.elim_some, once]
      | false =>
          -- The wait goes on from the board after the read, where what has just been noted makes no
          -- difference to the answers.
          simp only [ends, Bool.false_eq_true, if_false, induction, firstConclusive?_noting,
            statusAnswer_noting, polled_noting, pollEvents_noting, Board.noting_noting,
            ← pollEvents_succ]
          cases bus.firstConclusive? (bus.polled 1 board) left with
          | none => rfl
          | some index => rfl

theorem verdict_ne_timeout (needAck needIdle : Bool) (answer : Except Link.Error (List UInt32))
    (attempts : Nat) : verdict needAck needIdle (statusIn answer) ≠ .error (.timeout attempts) := by
  match answer with
  | .error _ => nofun
  | .ok [] => nofun
  | .ok (word :: _) =>
      simp only [statusIn, verdict]
      repeat' split
      all_goals nofun

/-- What a wait comes to is decided by the first conclusive answer among as many as there are
attempts. It reads the status up to that answer, each time in a batch of its own, and does nothing
else but take note of what it has read. Without such an answer it reads as often as there are
attempts, and only then is it given up for lack of time. -/
theorem waitUntilFinished_decided (bus : Bus) (board : Board σ) (needAck needIdle : Bool) :
    let attempts := bus.config.pollAttempts
    let answer := bus.statusAnswer board
    let first := (List.range attempts).find? fun index => conclusive (answer index)
    let reads := first.elim attempts (· + 1)
    let ended := board.run (bus.waitUntilFinished needAck needIdle).run
    ended.1 = first.elim (.error (.timeout attempts)) (fun index =>
      verdict needAck needIdle (answer index)) ∧
    ended.2 = (bus.polled reads board).noting ((List.range reads).filterMap fun index =>
      bus.pollEvent? (1 + index) (answer index)) ∧
    ended.2.staged = board.staged + reads ∧
    (ended.1 = .error (.timeout attempts) ↔ first = none) := by
  intro attempts answer first reads ended
  have ran : ended = (first.elim (.error (.timeout attempts)) fun index =>
        verdict needAck needIdle (answer index),
      (bus.polled reads board).noting (bus.pollEvents board 1 reads)) :=
    bus.poll_run_eq needAck needIdle 1 attempts board
  rw [ran]
  refine ⟨rfl, rfl, bus.polled_staged reads board, ?_⟩
  cases first with
  | none => exact ⟨fun _ => rfl, fun _ => rfl⟩
  | some index =>
      have decided := verdict_ne_timeout needAck needIdle
        ((bus.polled index board).serve (.exchange [.read (bus.path .command)])).1 attempts
      exact ⟨fun timeout => absurd timeout decided, nofun⟩

end ClockBoard.Bus
