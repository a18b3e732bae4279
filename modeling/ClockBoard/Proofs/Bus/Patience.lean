import ClockBoard.Proofs.Bus.Bare
import ClockBoard.Proofs.Bus.Recovery
import ClockBoard.Proofs.Simulation.Lag

/-!
A bus that waits long enough does not notice that its core stalls. Each wait polls the status until
the stall is over and judges what the status shows then, as it would have done at once.
-/

namespace ClockBoard.Bus

open ClockBoard.Core ClockBoard.Link ClockBoard.Simulation ClockBoard.Routine

variable {bus : Bus} {circuit : Circuit} {most : Nat} {α β : Type}

/-- Whether a routine ends in the same way whether or not the core stalls for a few status reads. -/
abbrev Patient (most : Nat) (routine : Routine Link.interface α) : Prop :=
  Keeps Circuit.serve (Circuit.Lags most) routine

/-! ## Accesses -/

theorem patient_note (event : Event) : Patient most (Link.note event) :=
  fun _ _ lags => ⟨rfl, lags⟩

theorem patient_remark (level : Event.Level) (message : String)
    (fields : List (String × Event.Value)) :
    Patient most (liftM (bus.remark level message fields) : Action Unit).run :=
  fun _ _ lags => ⟨rfl, lags⟩

theorem patient_lift (answer : Except Error α) : Patient most (liftM answer : Action α).run :=
  keeps_done answer

theorem patient_exchange {operations : List Operation} (blind : Circuit.Blind operations) :
    Patient most (exchange operations).run := by
  refine keeps_bind (?_ : Patient most (Link.exchange operations)) fun _ => keeps_done _
  intro one two lags
  rcases lags.carry ⟨0, operations⟩ blind with ⟨same, still⟩
  exact ⟨congrArg (Except.map Response.values) same, still⟩

theorem patient_readRegister {register : Register} (other : register ≠ .command) :
    Patient most (bus.readRegister register).run :=
  keeps_bind_run (patient_exchange (Circuit.Blind.nil.read _ _ other)) fun _ => patient_lift _

theorem patient_writeRegister (register : Register) (value : UInt32) :
    Patient most (bus.writeRegister register value).run :=
  keeps_bind_run (patient_exchange (Circuit.Blind.nil.write _ _)) fun _ => keeps_done _

theorem patient_program (steps : List (Register × UInt32)) :
    Patient most (steps.forM fun step => bus.writeRegister step.1 step.2).run := by
  induction steps with
  | nil => exact keeps_done _
  | cons step rest induction => exact keeps_bind_run (patient_writeRegister _ _) fun _ => induction

theorem patient_reset : Patient most bus.reset.run := by
  have blind : Circuit.Blind [.read (bus.path .control), .read (bus.path .prescaleHigh),
      .read (bus.path .prescaleLow)] :=
    ((Circuit.Blind.nil.read _ .prescaleLow nofun).read _ .prescaleHigh nofun).read _ .control nofun
  have clear : Circuit.Blind [.write (bus.path .data) 0, .write (bus.path .command) 0] :=
    (Circuit.Blind.nil.write _ _).write _ _
  refine keeps_bind_run (patient_exchange blind) fun values => ?_
  refine keeps_bind_run (patient_lift _) fun control => ?_
  refine keeps_bind_run (patient_lift _) fun high => ?_
  refine keeps_bind_run (patient_lift _) fun low => ?_
  dsimp only
  split
  · refine keeps_bind_run (patient_exchange clear) fun _ => ?_
    exact keeps_bind_run (patient_remark _ _ _) fun _ => keeps_done _
  · refine keeps_bind_run (patient_remark _ _ _) fun _ => ?_
    exact keeps_bind_run (patient_program _) fun _ => keeps_done _

/-! ## Waits -/

theorem readStatus_run (bus : Bus) (circuit : Circuit) :
    (bus.readRegister .command).run.run Circuit.serve circuit =
      match Register.ofPath? circuit.node (bus.path .command) with
      | none => (.error (.link (.missingRegister (bus.path .command))), circuit)
      | some _ => (.ok circuit.readStatus.1, circuit.readStatus.2) := by
  have exchanged : (exchange [.read (bus.path .command)]).run.run Circuit.serve circuit =
      let carried := circuit.carry { serial := 0, operations := [.read (bus.path .command)] }
      ((carried.1.map Response.values).mapError Error.link, carried.2) := rfl
  split
  · rename_i unknown
    have carried : circuit.carry { serial := 0, operations := [.read (bus.path .command)] } =
        (.error (.missingRegister (bus.path .command)), circuit) := by
      simp [Circuit.carry, Batch.firstUnknown?, Operation.register, unknown]
    rw [carried] at exchanged
    exact run_bind_error exchanged
  · rename_i known
    cases Register.eq_of_ofPath? known
    have carried : circuit.carry { serial := 0, operations := [.read (bus.path .command)] } =
        (.ok { batch := some 0, values := [circuit.readStatus.1] }, circuit.readStatus.2) := by
      simp [Circuit.carry, Batch.firstUnknown?, Batch.respond, Circuit.perform,
        Operation.register, known, Circuit.read]
    rw [carried] at exchanged
    exact run_bind_ok exchanged

theorem poll_succ_run {register : Register} (needAck needIdle : Bool) (attempt left late : Nat)
    (known : Register.ofPath? circuit.node (bus.path .command) = some register) :
    (bus.poll needAck needIdle attempt (left + 1)).run.run Circuit.serve (circuit.stall late) =
      if circuit.status.arbitrationLost then
        (.error .arbitrationLost, circuit.stall (late - 1))
      else if late != 0 || circuit.status.transferInProgress then
        (bus.poll needAck needIdle (attempt + 1) left).run.run Circuit.serve
          (circuit.stall (late - 1))
      else (outcome needAck needIdle circuit.status, circuit.stall (late - 1)) := by
  have same : (circuit.stall late).node = circuit.node := rfl
  have read : (bus.readRegister .command).run.run Circuit.serve (circuit.stall late) =
      (.ok (circuit.stall late).readStatus.1, (circuit.stall late).readStatus.2) := by
    rw [readStatus_run, same, known]
  rw [poll, run_bind_ok read, remark_run_bind, Circuit.readStatus_stall, status_ofWord_toWord]
  split
  · rfl
  · split <;> rfl

/-- A wait that is longer than a stall ends as any wait does that is longer than a stall. -/
theorem poll_run (bus : Bus) (needAck needIdle : Bool) (circuit : Circuit) :
    ∃ result, ∀ attempt left late, late < left → ∃ rest ≤ late,
      (bus.poll needAck needIdle attempt left).run.run Circuit.serve (circuit.stall late) =
        (result, circuit.stall rest) := by
  cases known : Register.ofPath? circuit.node (bus.path .command) with
  | none =>
      refine ⟨.error (.link (.missingRegister (bus.path .command))), ?_⟩
      intro attempt left late short
      cases left with
      | zero => exact absurd short (Nat.not_lt_zero late)
      | succ left =>
          refine ⟨late, Nat.le_refl late, run_bind_error ?_⟩
          rw [readStatus_run]
          exact known ▸ rfl
  | some register =>
      refine ⟨if circuit.status.arbitrationLost then .error .arbitrationLost
        else if circuit.status.transferInProgress then .error (.timeout bus.config.pollAttempts)
        else outcome needAck needIdle circuit.status, ?_⟩
      intro attempt left
      induction left generalizing attempt with
      | zero => exact fun late short => absurd short (Nat.not_lt_zero late)
      | succ left induction =>
          intro late short
          rw [poll_succ_run needAck needIdle attempt left late known]
          cases lost : circuit.status.arbitrationLost with
          | true => exact ⟨late - 1, Nat.sub_le late 1, rfl⟩
          | false =>
              simp only [lost, Bool.false_eq_true, if_false] at induction ⊢
              rcases late with _ | late
              · -- The stall is over, and the status is what it will be from now on.
                cases progress : circuit.status.transferInProgress with
                | false => exact ⟨0, Nat.le_refl 0, rfl⟩
                | true =>
                    simp only [progress] at induction
                    cases left with
                    | zero => exact ⟨0, Nat.le_refl 0, rfl⟩
                    | succ left => exact induction (attempt + 1) 0 (Nat.succ_pos left)
              · rcases induction (attempt + 1) late (Nat.lt_of_succ_lt_succ short) with
                  ⟨rest, few, ran⟩
                exact ⟨rest, Nat.le_succ_of_le few, ran⟩

section Waiting

variable (patient : most < bus.config.pollAttempts)
include patient

theorem patient_wait (needAck needIdle : Bool) :
    Patient most (bus.waitUntilFinished needAck needIdle).run := by
  rintro one _ ⟨calm, left, few, rfl⟩
  rcases bus.poll_run needAck needIdle one with ⟨result, settled⟩
  have still : one.stall 0 = one := by rw [← calm]; rfl
  rcases settled 1 _ 0 (Nat.zero_lt_of_lt patient) with ⟨none, nothing, ran⟩
  rcases settled 1 _ left (Nat.lt_of_le_of_lt few patient) with ⟨rest, less, ranLate⟩
  rw [still, Nat.le_zero.mp nothing, still] at ran
  rw [waitUntilFinished, ran, ranLate]
  exact ⟨rfl, calm, rest, Nat.le_trans less few, rfl⟩

/-! ## Bytes and blocks -/

theorem patient_sendByte (command : Command) (byte : UInt8) :
    Patient most (bus.sendByte command byte).run := by
  refine keeps_bind_run (patient_lift _) fun word => ?_
  refine keeps_bind_run (patient_exchange ?_) fun _ => patient_wait patient _ _
  exact (Circuit.Blind.nil.write _ _).write _ _

theorem patient_receiveByte (command : Command) : Patient most (bus.receiveByte command).run := by
  refine keeps_bind_run (patient_lift _) fun word => ?_
  refine keeps_bind_run (patient_writeRegister _ _) fun _ => ?_
  refine keeps_bind_run (patient_wait patient _ _) fun _ => ?_
  exact keeps_bind_run (patient_readRegister nofun) fun _ => keeps_done _

theorem patient_sendBytes (stop : Bool) (bytes : List UInt8) :
    Patient most (bus.sendBytes stop bytes).run := by
  induction bytes with
  | nil => exact keeps_done _
  | cons byte rest induction =>
      exact keeps_bind_run (patient_sendByte patient _ _) fun _ => induction

theorem patient_receiveBytes (received : List UInt8) (count : Nat) :
    Patient most (bus.receiveBytes received count).run := by
  induction count generalizing received with
  | zero => exact keeps_done _
  | succ count induction =>
      exact keeps_bind_run (patient_receiveByte patient _) fun byte => induction (byte :: received)

/-! ## Transactions -/

theorem patient_writeBlock (address : UInt8) (bytes : List UInt8) (stop : Bool) :
    Patient most (bus.writeBlock address bytes stop).run := by
  refine keeps_bind_run (patient_lift _) fun _ => keeps_bind_run patient_reset fun _ => ?_
  refine keeps_bind_run (patient_remark _ _ _) fun _ => ?_
  exact keeps_bind_run (patient_sendByte patient _ _) fun _ => patient_sendBytes patient _ _

theorem patient_readBlock (address : UInt8) (count : Nat) :
    Patient most (bus.readBlock address count).run := by
  refine keeps_bind_run (patient_lift _) fun _ => keeps_bind_run patient_reset fun _ => ?_
  refine keeps_bind_run (patient_remark _ _ _) fun _ => ?_
  exact keeps_bind_run (patient_sendByte patient _ _) fun _ => patient_receiveBytes patient _ _

theorem patient_readArray (address register : UInt8) (count : Nat) :
    Patient most (bus.readArray address register count).run :=
  keeps_bind_run (patient_writeBlock patient _ _ _) fun _ => patient_readBlock patient _ _

theorem patient_writeArray (address register : UInt8) (bytes : List UInt8) (stop : Bool) :
    Patient most (bus.writeArray address register bytes stop).run :=
  patient_writeBlock patient _ _ _

theorem patient_ping (address : UInt8) : Patient most (bus.ping address) := by
  have tried : Patient most (bus.tryAddress address).run :=
    keeps_bind_run (patient_lift _) fun _ => keeps_bind_run patient_reset fun _ =>
      patient_sendByte patient _ _
  refine keeps_bind tried fun answer => ?_
  cases answer with
  | ok _ => exact keeps_done _
  | error error => exact keeps_bind (patient_note _) fun _ => keeps_done _

theorem patient_pingAll (addresses : List UInt8) : Patient most (bus.pingAll addresses) := by
  induction addresses with
  | nil => exact keeps_done _
  | cons address rest induction =>
      refine keeps_bind (patient_ping patient _) fun present => ?_
      exact keeps_bind induction fun found => keeps_done _

theorem patient_scan : Patient most bus.scan :=
  keeps_bind (patient_pingAll patient _) fun _ =>
    keeps_bind (patient_note _) fun _ => keeps_done _

end Waiting

/-! ## Calls -/

@[reducible] def Call.Answer : Call → Type
  | .reset => Except Error ResetPath
  | .waitUntilFinished _ _ | .sendByte _ _ | .writeBlock _ _ _ | .writeArray _ _ _ _ =>
      Except Error Unit
  | .receiveByte _ => Except Error UInt8
  | .readBlock _ _ | .readArray _ _ _ => Except Error (List UInt8)
  | .ping _ => Bool
  | .scan => List UInt8

@[reducible] def calls : Interface where
  Request := Call
  Answer := Call.Answer

def answer (bus : Bus) : (call : Call) → Routine Link.interface call.Answer
  | .reset => bus.reset.run
  | .waitUntilFinished needAck needIdle => (bus.waitUntilFinished needAck needIdle).run
  | .sendByte command byte => (bus.sendByte command byte).run
  | .receiveByte command => (bus.receiveByte command).run
  | .writeBlock address bytes stop => (bus.writeBlock address bytes stop).run
  | .readBlock address count => (bus.readBlock address count).run
  | .readArray address register count => (bus.readArray address register count).run
  | .writeArray address register bytes stop => (bus.writeArray address register bytes stop).run
  | .ping address => bus.ping address
  | .scan => bus.scan

theorem patient_answer (patient : most < bus.config.pollAttempts) (call : Call) :
    Patient most (bus.answer call) := by
  cases call with
  | reset => exact patient_reset
  | waitUntilFinished needAck needIdle => exact patient_wait patient _ _
  | sendByte command byte => exact patient_sendByte patient _ _
  | receiveByte command => exact patient_receiveByte patient _
  | writeBlock address bytes stop => exact patient_writeBlock patient _ _ _
  | readBlock address count => exact patient_readBlock patient _ _
  | readArray address register count => exact patient_readArray patient _ _ _
  | writeArray address register bytes stop => exact patient_writeArray patient _ _ _ _
  | ping address => exact patient_ping patient _
  | scan => exact patient_scan patient

end ClockBoard.Bus
