import Mathlib.Data.List.Infix
import ClockBoard.Proofs.Bus.Serving
import ClockBoard.Proofs.Chip.Contents
import ClockBoard.Proofs.Link.Exchange
import ClockBoard.Proofs.Upload.Attempts

/-!
An upload to a chip without pages, on a circuit where nothing goes wrong but that the chip refuses a
number of writes. Each register takes all the refusals that its attempts meet. So as many registers
fail as the refusals can keep from being written, and those past the registers of the chip, which
never get as far as the wires.

The main statement has the failures, the register writes and the refusals that are left.
-/

namespace ClockBoard.Chip

open ClockBoard.Link ClockBoard.Simulation ClockBoard.Upload

variable {bus : Bus} {circuit : Circuit}

def serveOn (bus : Bus) (write : UInt16 → UInt8 → Action Unit) (request : Upload.Request)
    (circuit : Circuit) : Upload.interface.Answer request × Circuit :=
  (asWriter write request).run
    (fun request => (Handle.carry bus false request).run Circuit.serve) circuit

theorem uploadOn_run {α : Type} (bus : Bus) (write : UInt16 → UInt8 → Action Unit)
    (routine : Routine Upload.interface α) (board : Board Circuit) (free : board.access = .free) :
    (uploadOn bus write routine board).1 = (routine.run (serveOn bus write) board.transport).1 ∧
      (uploadOn bus write routine board).2.transport =
        (routine.run (serveOn bus write) board.transport).2 := by
  let carried := (upload write routine).carryOut (Handle.carry bus false)
  have ran := Circuit.board_run carried board free
  rw [Routine.run_carryOut, upload, Routine.run_carryOut] at ran
  exact ran

theorem attemptWrite_run_succ (write : UInt16 → UInt8 → Action Unit) (assignment : Assignment)
    (attempt : Nat) (reason? : Option String) (count : Nat) :
    (attemptWrite assignment attempt reason? (count + 1)).run (serveOn bus write) circuit =
      let written := serveOn bus write (.write assignment.address assignment.value) circuit
      match written.1 with
      | .ok _ => (none, written.2)
      | .error reason =>
          (attemptWrite assignment (attempt + 1) (some reason) count).run (serveOn bus write)
            written.2 := by
  simp only [attemptWrite, Upload.write, Routine.bind_eq_bind, Routine.ask_bind,
    Routine.done_bind, Routine.run]
  cases (serveOn bus write (.write assignment.address assignment.value) circuit).1 <;> rfl

theorem uploadPlain_run (write : UInt16 → UInt8 → Action Unit) (policy : Policy)
    (assignments : List Assignment) :
    (uploadPlain policy assignments).run (serveOn bus write) circuit =
      let wrote := (writeAll policy assignments).run (serveOn bus write) circuit
      (conclude policy.mode wrote.1, wrote.2) :=
  Routine.run_bind _ (writeAll policy assignments) (finish policy assignments.length) circuit

namespace Si5326

variable {chip : Si5326} {assignment : Assignment} {left : Nat} {writes : List (UInt16 × UInt8)}

def inside (assignment : Assignment) : Bool :=
  assignment.address ≤ 0xFF

/-! ## Attempts -/

/-- Whether nothing goes wrong with a chip but for a number of refusals left, after certain register
writes. -/
def Refuses (bus : Bus) (chip : Si5326) (left : Nat) (writes : List (UInt16 × UInt8))
    (circuit : Circuit) : Prop :=
  ∃ slave, bus.Serving chip.handle.address slave circuit ∧ slave.paged = false ∧
    slave.refusals = left ∧ slave.writes.toList = writes

theorem serveOn_write {address : UInt16} (small : address ≤ 0xFF) (value : UInt8) :
    serveOn bus chip.writeRegister (.write address value) circuit =
      let ran := (bus.writeArray chip.handle.address (lowByte address) [value] true).run.run
        Circuit.serve circuit
      ((ran.1.mapError Error.bus).mapError Error.message, ran.2) := by
  rw [serveOn, asWriter, writeRegister, if_pos small]
  rfl

theorem Refuses.write (refuses : Refuses bus chip left writes circuit)
    (waits : 0 < bus.config.pollAttempts) {address : UInt16} (small : address ≤ 0xFF)
    (value : UInt8) :
    ∃ after, serveOn bus chip.writeRegister (.write address value) circuit =
        (if left = 0 then .ok () else .error (Error.bus .noAcknowledge).message, after) ∧
      Refuses bus chip (left - 1) (if left = 0 then writes ++ [(address, value)] else writes)
        after := by
  obtain ⟨slave, serving, flat, isLeft, isWrites⟩ := refuses
  obtain ⟨after, ran, again⟩ :=
    serving.writeArray waits chip.handle.inRange (lowByte address) value
  have target : (slave.pointTo (lowByte address)).current = address := by
    simp [Slave.current, Slave.pointTo, flat, joinBytes_zero_lowByte small]
  have remaining : (slave.pointTo (lowByte address)).refusals = left := isLeft
  have written : (slave.pointTo (lowByte address)).writes.toList = writes := isWrites
  rw [isLeft] at ran
  rw [Slave.store_eq, remaining] at again
  refine ⟨after, ?_, _, again, ?_⟩
  · rw [serveOn_write small, ran]
    split <;> rfl
  · cases left with
    | zero => exact ⟨flat, remaining, by simp [Slave.put, target, written]⟩
    | succ left => exact ⟨flat, rfl, written⟩

theorem serveOn_past {address : UInt16} (past : ¬address ≤ 0xFF) (value : UInt8) :
    serveOn bus chip.writeRegister (.write address value) circuit =
      (.error (Error.addressOutOfRange address).message, circuit) := by
  rw [serveOn, asWriter, writeRegister, if_neg past]
  rfl

theorem Refuses.attemptWrite (refuses : Refuses bus chip left writes circuit)
    (waits : 0 < bus.config.pollAttempts) (small : assignment.address ≤ 0xFF) (attempt : Nat)
    (reason? : Option String) (count : Nat) :
    ∃ after, (attemptWrite assignment attempt reason? count).run
          (serveOn bus chip.writeRegister) circuit =
        (if left < count then none
          else if count = 0 then reason? else some (Error.bus .noAcknowledge).message, after) ∧
      Refuses bus chip (left - count)
        (if left < count then writes ++ [(assignment.address, assignment.value)] else writes)
        after := by
  induction count generalizing left circuit attempt reason? with
  | zero => exact ⟨circuit, rfl, refuses⟩
  | succ count induction =>
      obtain ⟨middle, wrote, again⟩ := refuses.write waits small assignment.value
      rw [attemptWrite_run_succ, wrote]
      cases left with
      | zero =>
          refine ⟨middle, rfl, ?_⟩
          rwa [Nat.zero_sub, if_pos (Nat.succ_pos count)]
      | succ left =>
          obtain ⟨after, ran, lasting⟩ :=
            induction again (attempt + 1) (some (Error.bus .noAcknowledge).message)
          refine ⟨after, ?_, ?_⟩
          · apply ran.trans
            simp only [Nat.add_sub_cancel, Nat.add_lt_add_iff_right, Nat.succ_ne_zero, if_false,
              ite_self]
          · simpa using lasting

theorem attemptWrite_past (past : ¬assignment.address ≤ 0xFF) (attempt : Nat)
    (reason? : Option String) (count : Nat) :
    (attemptWrite assignment attempt reason? count).run (serveOn bus chip.writeRegister) circuit =
      (if count = 0 then reason? else some (Error.addressOutOfRange assignment.address).message,
        circuit) := by
  induction count generalizing attempt reason? with
  | zero => rfl
  | succ count induction =>
      rw [attemptWrite_run_succ, serveOn_past past]
      apply (induction _ _).trans
      simp only [Nat.succ_ne_zero, if_false, ite_self]

/-! ## Assignments -/

def failure (policy : Policy) (assignment : Assignment) (error : Error) : Failure where
  address := assignment.address
  value := assignment.value
  attempts := max policy.attempts 1
  reason := error.message

theorem writeAssignment_run (policy : Policy) :
    (writeAssignment policy assignment).run (serveOn bus chip.writeRegister) circuit =
      let attempted := (Upload.attemptWrite assignment 1 none (max policy.attempts 1)).run
        (serveOn bus chip.writeRegister) circuit
      (attempted.1.map fun reason =>
        { address := assignment.address
          value := assignment.value
          attempts := max policy.attempts 1
          reason }, attempted.2) :=
  Routine.run_bind _ _ _ _

theorem Refuses.writeAssignment (refuses : Refuses bus chip left writes circuit)
    (waits : 0 < bus.config.pollAttempts) (small : assignment.address ≤ 0xFF) (policy : Policy) :
    ∃ after, (writeAssignment policy assignment).run (serveOn bus chip.writeRegister) circuit =
        (if left < max policy.attempts 1 then none
          else some (failure policy assignment (.bus .noAcknowledge)), after) ∧
      Refuses bus chip (left - max policy.attempts 1)
        (if left < max policy.attempts 1 then writes ++ [(assignment.address, assignment.value)]
          else writes) after := by
  obtain ⟨after, ran, again⟩ := refuses.attemptWrite waits small 1 none (max policy.attempts 1)
  refine ⟨after, ?_, again⟩
  rw [writeAssignment_run, ran, if_neg (by omega : max policy.attempts 1 ≠ 0)]
  split <;> rfl

theorem writeAssignment_past (past : ¬assignment.address ≤ 0xFF) (policy : Policy) :
    (writeAssignment policy assignment).run (serveOn bus chip.writeRegister) circuit =
      (some (failure policy assignment (.addressOutOfRange assignment.address)), circuit) := by
  rw [writeAssignment_run, attemptWrite_past past,
    if_neg (by omega : max policy.attempts 1 ≠ 0)]
  rfl

/-! ## Lists of assignments -/

/-- The error of an assignment that fails, if it does: it is past the registers of the chip, or
fewer assignments that are not come before it than are refused. -/
def error? (refused : Nat) (before : List Assignment) (assignment : Assignment) : Option Error :=
  if inside assignment then
    if before.countP inside < refused then some (.bus .noAcknowledge) else none
  else some (.addressOutOfRange assignment.address)

def fates (refused : Nat) (assignments : List Assignment) : List (Assignment × Option Error) :=
  (assignments.inits.zip assignments).map fun entry => (entry.2, error? refused entry.1 entry.2)

def failures (policy : Policy) (fates : List (Assignment × Option Error)) : List Failure :=
  fates.filterMap fun fate => fate.2.map (failure policy fate.1)

def applied (fates : List (Assignment × Option Error)) : List (UInt16 × UInt8) :=
  fates.filterMap fun fate => if fate.2.isNone then some (fate.1.address, fate.1.value) else none

/-- The refusals that are left of some after a number of registers with so many attempts each. All
the attempts at a register that fails use up one each, and the first register that does not fail
uses up the rest. -/
def remaining (limit left count : Nat) : Nat :=
  let refused := min (left / limit) count
  left - limit * refused - if refused < count then left % limit else 0

theorem error?_cons (refused : Nat) (first : Assignment) (before : List Assignment)
    (assignment : Assignment) :
    error? refused (first :: before) assignment =
      error? (if inside first then refused - 1 else refused) before assignment := by
  have fewer : (first :: before).countP inside < refused ↔
      before.countP inside < if inside first then refused - 1 else refused := by
    rw [List.countP_cons]
    cases inside first with
    | false => exact Iff.rfl
    | true => exact Nat.lt_sub_iff_add_lt.symm
  simp only [error?, fewer]

theorem fates_cons (refused : Nat) (assignment : Assignment) (rest : List Assignment) :
    fates refused (assignment :: rest) =
      (assignment, error? refused [] assignment) ::
        fates (if inside assignment then refused - 1 else refused) rest := by
  simp only [fates, List.inits_cons, List.zip_cons_cons, List.map_cons, List.zip_map_left,
    List.map_map, Function.comp_def, Prod.map, error?_cons, id]

theorem error?_nil_inside {refused : Nat} (present : inside assignment = true) :
    error? refused [] assignment = if refused = 0 then none else some (.bus .noAcknowledge) := by
  rw [error?, if_pos present, List.countP_nil]
  cases refused <;> rfl

theorem remaining_succ {limit : Nat} (positive : 0 < limit) (left count : Nat) :
    remaining limit left (count + 1) = remaining limit (left - limit) count := by
  have quotient : (left - limit) / limit = left / limit - 1 := by
    simpa using Nat.sub_mul_div left limit 1
  by_cases few : left < limit
  · have none : left - limit = 0 := Nat.sub_eq_zero_of_le (Nat.le_of_lt few)
    simp [remaining, none, Nat.div_eq_of_lt few, Nat.mod_eq_of_lt few]
  · have some : 0 < left / limit := Nat.div_pos (Nat.le_of_not_lt few) positive
    have rest : (left - limit) % limit = left % limit :=
      (Nat.mod_eq_sub_mod (Nat.le_of_not_lt few)).symm
    have one : min (left / limit) (count + 1) = min (left / limit - 1) count + 1 := by omega
    simp only [remaining, quotient, rest, one, Nat.mul_add, Nat.mul_one, Nat.add_lt_add_iff_right]
    omega

theorem refused_fates (refused : Nat) (assignments : List Assignment) :
    ((fates refused assignments).filter fun fate => inside fate.1 && fate.2.isSome).map Prod.fst =
      (assignments.filter inside).take refused := by
  induction assignments generalizing refused with
  | nil => simp [fates]
  | cons assignment rest induction =>
      rw [fates_cons]
      cases present : inside assignment with
      | false => simpa [present] using induction refused
      | true =>
          have others := induction (refused - 1)
          rw [error?_nil_inside present]
          cases refused with
          | zero => simpa [present] using others
          | succ refused => simpa [present] using others

theorem Refuses.writeAll (refuses : Refuses bus chip left writes circuit)
    (waits : 0 < bus.config.pollAttempts) (policy : Policy) (assignments : List Assignment) :
    let limit := max policy.attempts 1
    let fates := fates (left / limit) assignments
    ∃ after, (writeAll policy assignments).run (serveOn bus chip.writeRegister) circuit =
        (failures policy fates, after) ∧
      Refuses bus chip (remaining limit left (assignments.countP inside)) (writes ++ applied fates)
        after := by
  intro limit
  have positive : 0 < limit := Nat.le_max_right _ _
  induction assignments generalizing left writes circuit with
  | nil =>
      refine ⟨circuit, rfl, ?_⟩
      simpa [remaining, fates, applied] using refuses
  | cons assignment rest induction =>
      have refused : (left - limit) / limit = left / limit - 1 := by
        simpa using Nat.sub_mul_div left limit 1
      rw [writeAll_cons, Routine.run_bind, fates_cons, List.countP_cons]
      cases present : inside assignment with
      | false =>
          have past : ¬assignment.address ≤ 0xFF := of_decide_eq_false present
          obtain ⟨after, others, again⟩ := induction refuses
          rw [writeAssignment_past past, Routine.run_bind, others]
          refine ⟨after, ?_, ?_⟩
          · simp [failures, error?, present]
          · simpa [applied, error?, present] using again
      | true =>
          have small : assignment.address ≤ 0xFF := of_decide_eq_true present
          obtain ⟨middle, wrote, taken⟩ := refuses.writeAssignment waits small policy
          obtain ⟨after, others, again⟩ := induction taken
          rw [wrote, Routine.run_bind, others, error?_nil_inside present, refused]
          rw [refused, ← remaining_succ positive] at again
          have enough : left / limit = 0 ↔ left < limit :=
            Nat.div_eq_zero_iff_lt positive
          refine ⟨after, ?_, ?_⟩
          · simp only [if_true, enough]
            split <;> rfl
          · simp only [if_true, enough]
            by_cases few : left < limit <;> simpa [applied, few, limit] using again

/-! ## Round trips -/

section

variable {σ α β : Type} [Transport σ] {one two : Board σ}

def carried (bus : Bus) (chip : Si5326) (routine : Routine Upload.interface α) :
    Routine Link.interface α :=
  (upload chip.writeRegister routine).carryOut (Handle.carry bus false)

theorem carried_bind (routine : Routine Upload.interface α)
    (next : α → Routine Upload.interface β) :
    carried bus chip (routine.bind next) =
      (carried bus chip routine).bind fun value => carried bus chip (next value) := by
  simp only [carried, upload, Routine.carryOut_bind]

theorem trips_attemptWrite_past (bus : Bus) (chip : Si5326) (past : ¬assignment.address ≤ 0xFF)
    (attempt : Nat) (reason? : Option String) (count : Nat) (same : one.silent = two.silent) :
    SameTrips (carried bus chip (attemptWrite assignment attempt reason? count)) one (.done ())
      two := by
  induction count generalizing attempt reason? one with
  | zero => exact .done reason? () same
  | succ count induction =>
      let reason := (Error.addressOutOfRange assignment.address).message
      have fails : asWriter chip.writeRegister (.write assignment.address assignment.value) =
          .done (.error reason) := by
        rw [asWriter, writeRegister, if_neg past]
        rfl
      have step : carried bus chip (attemptWrite assignment attempt reason? (count + 1)) =
          (Link.note (Course.warning assignment attempt reason)).bind fun _ =>
            carried bus chip (attemptWrite assignment (attempt + 1) (some reason) count) := by
        simp only [carried, upload, attemptWrite, Upload.write, Routine.bind_eq_bind,
          Routine.ask_bind, Routine.done_bind, Routine.carryOut, fails]
        rfl
      have noted : SameTrips (Link.note (Course.warning assignment attempt reason)) one
          (.done ()) two := ⟨rfl, same⟩
      rw [step]
      exact noted.skip (induction (attempt + 1) (some reason) noted.silent)

theorem trips_writeAssignment_past (bus : Bus) (chip : Si5326)
    (past : ¬assignment.address ≤ 0xFF) (policy : Policy) (same : one.silent = two.silent) :
    SameTrips (carried bus chip (writeAssignment policy assignment)) one (.done ()) two := by
  have attempts := trips_attemptWrite_past bus chip past 1 none (max policy.attempts 1) same
  rw [writeAssignment, Routine.bind_eq_bind, carried_bind]
  exact attempts.map _

theorem trips_writeAll (bus : Bus) (chip : Si5326) (policy : Policy)
    (assignments : List Assignment) (same : one.silent = two.silent) :
    SameTrips (carried bus chip (writeAll policy assignments)) one
      (carried bus chip (writeAll policy (assignments.filter inside))) two := by
  induction assignments generalizing one two with
  | nil => exact .done [] [] same
  | cons assignment rest induction =>
      have cons (assignment : Assignment) (rest : List Assignment) :
          carried bus chip (writeAll policy (assignment :: rest)) =
            (carried bus chip (writeAssignment policy assignment)).bind fun failure? =>
              (carried bus chip (writeAll policy rest)).bind fun failures =>
                .done (failure?.toList ++ failures) := by
        rw [writeAll_cons, carried_bind]
        exact congrArg _ (funext fun failure? => carried_bind _ _)
      cases present : inside assignment with
      | false =>
          have past : ¬assignment.address ≤ 0xFF := of_decide_eq_false present
          have none := trips_writeAssignment_past bus chip past policy same
          rw [cons, List.filter_cons_of_neg (Bool.eq_false_iff.mp present)]
          exact none.skip ((induction none.silent).map _)
      | true =>
          have both := SameTrips.refl (carried bus chip (writeAssignment policy assignment)) same
          rw [cons, List.filter_cons_of_pos present, cons]
          exact both.bind ((induction both.silent).bind (.done _ _ (induction both.silent).silent))

theorem trips_uploadPlain (bus : Bus) (chip : Si5326) (policy : Policy)
    (assignments : List Assignment) (board : Board σ) :
    SameTrips (carried bus chip (uploadPlain policy assignments)) board
      (carried bus chip (uploadPlain policy (assignments.filter inside))) board := by
  have parts (assignments : List Assignment) :
      carried bus chip (uploadPlain policy assignments) =
        (Link.note (opening assignments.length)).bind fun _ =>
          (carried bus chip (writeAll policy assignments)).bind fun failures =>
            (Link.note (closing (assignments.length - failures.length) failures.length)).bind
              fun _ => .done (conclude policy.mode failures) := by
    rw [uploadPlain, Routine.bind_eq_bind, carried_bind, Routine.bind_eq_bind]
    simp only [carried_bind]
    rfl
  have opened : SameTrips (Link.note (opening assignments.length)) board
      (Link.note (opening (assignments.filter inside).length)) board := ⟨rfl, rfl⟩
  have wrote := trips_writeAll bus chip policy assignments opened.silent
  rw [parts, parts]
  exact opened.bind (wrote.bind ⟨rfl, wrote.silent⟩)

end

/-! ## Uploads -/

/-- On a board where nothing goes wrong but that the chip refuses a number of writes, the registers
that are not written are those past the registers of the chip, for which nothing is sent, and of the
others as many from the start as all the attempts at them are refused. They are reported in order,
with the last error. The chip has taken the rest, each with one write, and has as many refusals left
as the attempts have not used up. -/
theorem upload_refused (bus : Bus) (chip : Si5326) (policy : Policy)
    (assignments : List Assignment) (board : Board Circuit) (slave : Slave)
    (free : board.access = .free)
    (serving : bus.Serving chip.handle.address slave board.transport)
    (flat : slave.paged = false) (waits : 1 ≤ bus.config.pollAttempts) :
    let limit := max policy.attempts 1
    let count := assignments.countP inside
    let refused := min (slave.refusals / limit) count
    let fates := fates (slave.refusals / limit) assignments
    let ran := uploadOn bus chip.writeRegister (uploadPlain policy assignments) board
    ((fates.filter fun fate => inside fate.1 && fate.2.isSome).map Prod.fst =
      (assignments.filter inside).take refused) ∧
    ran.1 = conclude policy.mode (failures policy fates) ∧
    (∃ held, ran.2.transport.slave? chip.handle.address = some held ∧
      held.writes.toList = slave.writes.toList ++ applied fates ∧
      held.refusals =
        slave.refusals - limit * refused - if refused < count then slave.refusals % limit else 0) ∧
    board.exchanges (carried bus chip (uploadPlain policy assignments)) =
      board.exchanges (carried bus chip (uploadPlain policy (assignments.filter inside))) := by
  intro limit count refused fates ran
  have refuses : Refuses bus chip slave.refusals slave.writes.toList board.transport :=
    ⟨slave, serving, flat, rfl, rfl⟩
  obtain ⟨after, wrote, held, again, _, left, writes⟩ :=
    refuses.writeAll waits policy assignments
  have ended : (uploadPlain policy assignments).run (serveOn bus chip.writeRegister)
      board.transport = (conclude policy.mode (failures policy fates), after) := by
    rw [uploadPlain_run, wrote]
  obtain ⟨result, reached⟩ :=
    uploadOn_run bus chip.writeRegister (uploadPlain policy assignments) board free
  rw [ended] at result reached
  refine ⟨?_, result, ⟨held, ?_, writes, left⟩, ?_⟩
  · have all : (assignments.filter inside).take count = assignments.filter inside := by
      rw [List.take_of_length_le]
      exact Nat.le_of_eq List.countP_eq_length_filter.symm
    rw [refused_fates, ← List.take_take, all]
  · rw [reached]
    exact again.attached
  · exact (trips_uploadPlain bus chip policy assignments board).exchanges

/-- Of five refusals, two registers take two each, and a third makes up for the last one with its
second attempt. -/
theorem upload_refused_five :
    let bus : Bus := { node := "i2c", config := {}, slaves := .empty }
    let chip : Si5326 := { handle := { address := 0x68 } }
    let circuit := (Circuit.ofNode "i2c").attach 0x68 (Slave.flat.refuseWrites 5)
    let assignments := [⟨0x10, 1⟩, ⟨0x100, 2⟩, ⟨0x11, 3⟩, ⟨0x12, 4⟩]
    let ran := uploadOn bus chip.writeRegister (uploadPlain {} assignments)
      (Board.ofTransport circuit)
    (reported ran.1).map Failure.address = [0x10, 0x100, 0x11] ∧
      ∃ held, ran.2.transport.slave? chip.handle.address = some held ∧
        held.writes.toList = [(0x12, 4)] ∧ held.refusals = 0 := by
  intro bus chip circuit assignments ran
  have ready : bus.Ready circuit := ⟨rfl, .inr (by decide), rfl, rfl⟩
  have attached : circuit.slave? chip.handle.address = some (Slave.flat.refuseWrites 5) :=
    (Table.get?_insert _ _ _ _).trans (if_pos rfl)
  obtain ⟨_, result, ⟨held, isHeld, writes, left⟩, _⟩ :=
    upload_refused bus chip {} assignments (Board.ofTransport circuit) _ rfl
      ⟨ready, rfl, attached⟩ rfl (by decide)
  have isRan : ran = uploadOn bus chip.writeRegister (uploadPlain {} assignments)
      (Board.ofTransport circuit) := rfl
  rw [← isRan] at result isHeld
  refine ⟨?_, held, isHeld, writes.trans (by decide), left.trans (by decide)⟩
  rw [result, reported_conclude]
  decide

end Si5326

end ClockBoard.Chip
