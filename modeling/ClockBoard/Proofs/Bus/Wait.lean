import ClockBoard.Proofs.Bus.Wire
import ClockBoard.Proofs.Core.Word

/-!
A wait for the end of a transfer leaves the core as it is, whatever it ends with. When it ends well
the status is what the caller asked for; when it does not, the status shows why, or a status read
failed, or the core stalled at every attempt.
-/

namespace ClockBoard.Bus

open ClockBoard.Core ClockBoard.Link ClockBoard.Simulation

variable {bus : Bus} {before after : Circuit} {toll : Toll}

@[simp] theorem status_ofWord_toWord (status : Status) :
    Status.layout.ofWord (Status.layout.toWord status) = status :=
  Status.lawful.ofWord_toWord status

theorem runs_readStatus_ok {word : UInt32} (node : before.node = bus.node)
    (runs : Runs (bus.readRegister .command).run before (.ok word) after toll) :
    after = before ∧
      (Status.layout.ofWord word = before.status ∨
        Status.layout.ofWord word = { before.status with transferInProgress := true } ∧
          toll.stalls = 1) := by
  rcases runs_readRegister_ok node runs with ⟨actual, rfl, rfl, rfl, settles⟩
  have stalls := settles.stalls
  simp only [Circuit.read, Circuit.readStatus] at stalls ⊢
  split
  · rename_i stalling
    simp only [stalling, if_true] at stalls
    exact ⟨rfl, .inr ⟨status_ofWord_toWord _, by omega⟩⟩
  · exact ⟨rfl, .inl (status_ofWord_toWord _)⟩

/-- What a wait for a number of status reads can end with when the core has a status. -/
def Waited (needAck needIdle : Bool) (left : Nat) (status : Status) (toll : Toll) :
    Except Error Unit → Prop
  | .ok _ =>
      status.arbitrationLost = false ∧ (needAck = true → status.rxNack = false) ∧
        (needIdle = true → status.busy = false)
  | .error _ =>
      toll.failed ≠ [] ∨ left ≤ toll.stalls ∨ status.transferInProgress = true ∨
        status.arbitrationLost = true ∨ (needAck = true ∧ status.rxNack = true) ∨
        (needIdle = true ∧ status.busy = true)

theorem waited_outcome {needAck needIdle : Bool} {left : Nat} {status : Status}
    (kept : status.arbitrationLost = false) :
    Waited needAck needIdle left status toll (outcome needAck needIdle status) := by
  unfold outcome Status.ackReceived
  cases acked : needAck && !!status.rxNack with
  | true =>
      simp only [Bool.and_eq_true, Bool.not_not] at acked
      simp only [if_true, Waited]
      exact .inr (.inr (.inr (.inr (.inl acked))))
  | false =>
      cases idle : needIdle && status.busy with
      | true =>
          simp only [Bool.and_eq_true] at idle
          simp only [if_true, Bool.false_eq_true, if_false, Waited]
          exact .inr (.inr (.inr (.inr (.inr idle))))
      | false =>
          simp only [Bool.false_eq_true, if_false, Waited]
          simp only [Bool.not_not, Bool.and_eq_false_iff] at acked idle
          refine ⟨kept, ?_, ?_⟩
          · intro asked
            simpa [asked] using acked
          · intro asked
            simpa [asked] using idle

theorem Waited.again {needAck needIdle : Bool} {left : Nat} {status : Status} {first rest : Toll}
    {result : Except Error Unit}
    (progress : status.transferInProgress = true ∨ first.stalls = 1)
    (waited : Waited needAck needIdle left status rest result) :
    Waited needAck needIdle (left + 1) status (first + rest) result := by
  cases result with
  | ok _ => exact waited
  | error _ =>
      rcases waited with failed | stalled | shown
      · left
        simp [failed]
      · rcases progress with progress | progress
        · exact .inr (.inr (.inl progress))
        · refine .inr (.inl ?_)
          rw [Toll.stalls_add]
          omega
      · exact .inr (.inr shown)

theorem runs_poll_succ {needAck needIdle : Bool} {attempt left : Nat} {result : Except Error Unit}
    (node : before.node = bus.node)
    (runs : Runs (bus.poll needAck needIdle attempt (left + 1)).run before result after toll) :
    (after = before ∧ toll.failed ≠ [] ∧ ∃ error, result = .error error) ∨
      ∃ (status : Status) (first rest : Toll), toll = first + rest ∧
        (status = before.status ∨
          status = { before.status with transferInProgress := true } ∧ first.stalls = 1) ∧
        Runs
          (if status.arbitrationLost then throw .arbitrationLost
            else if status.transferInProgress then bus.poll needAck needIdle (attempt + 1) left
            else outcome needAck needIdle status : Action Unit).run
          before result after rest := by
  rcases (Routine.possible_bind_run _ _ _).mp runs with
    ⟨error, rfl, read⟩ | ⟨word, middle, first, rest, read, continued, rfl⟩
  · rcases runs_readRegister_error node read with ⟨_, rfl, rfl⟩
    exact .inl ⟨rfl, List.cons_ne_nil _ _, error, rfl⟩
  · rcases runs_readStatus_ok node read with ⟨rfl, shown⟩
    exact .inr ⟨_, first, rest, rfl, shown, (runs_remark_bind _ _ _ _ _).mp continued⟩

theorem runs_poll {needAck needIdle : Bool} {attempt left : Nat} {result : Except Error Unit}
    (node : before.node = bus.node)
    (runs : Runs (bus.poll needAck needIdle attempt left).run before result after toll) :
    after = before ∧ Waited needAck needIdle left before.status toll result := by
  induction left generalizing attempt before toll with
  | zero =>
      rcases runs with ⟨rfl, rfl, rfl⟩
      exact ⟨rfl, .inr (.inl (Nat.zero_le _))⟩
  | succ left induction =>
      rcases runs_poll_succ node runs with
        ⟨rfl, failed, error, rfl⟩ | ⟨status, first, rest, rfl, shown, judged⟩
      · exact ⟨rfl, .inl failed⟩
      · have arbitration : status.arbitrationLost = before.status.arbitrationLost := by
          rcases shown with rfl | ⟨rfl, _⟩ <;> rfl
        cases lost : status.arbitrationLost with
        | true =>
            simp only [lost, if_true] at judged
            rcases judged with ⟨rfl, rfl, rfl⟩
            exact ⟨rfl, .inr (.inr (.inr (.inl (arbitration ▸ lost))))⟩
        | false =>
            simp only [lost, Bool.false_eq_true, if_false] at judged
            cases progress : status.transferInProgress with
            | true =>
                simp only [progress, if_true] at judged
                rcases induction node judged with ⟨same, waited⟩
                refine ⟨same, waited.again ?_⟩
                rcases shown with rfl | ⟨rfl, stalled⟩
                · exact .inl progress
                · exact .inr stalled
            | false =>
                simp only [progress, Bool.false_eq_true, if_false] at judged
                rcases judged with ⟨rfl, rfl, rfl⟩
                rcases shown with rfl | ⟨rfl, _⟩
                · exact ⟨rfl, waited_outcome lost⟩
                · cases progress

theorem runs_poll_over {needAck needIdle : Bool} {attempt left : Nat} {result : Except Error Unit}
    (node : before.node = bus.node) (kept : before.status.arbitrationLost = false)
    (quiet : before.status.transferInProgress = false)
    (runs : Runs (bus.poll needAck needIdle attempt left).run before result after toll) :
    result = outcome needAck needIdle before.status ∨ toll.failed ≠ [] ∨ left ≤ toll.stalls := by
  induction left generalizing attempt toll with
  | zero => exact .inr (.inr (Nat.zero_le _))
  | succ left induction =>
      rcases runs_poll_succ node runs with
        ⟨_, failed, _⟩ | ⟨_, first, rest, rfl, rfl | ⟨rfl, stalled⟩, judged⟩
      · exact .inr (.inl failed)
      · simp only [kept, quiet, Bool.false_eq_true, if_false] at judged
        exact .inl judged.1
      · simp only [kept, Bool.false_eq_true, if_false, if_true] at judged
        rcases induction judged with ended | failed | many
        · exact .inl ended
        · simp [failed]
        · right; right
          rw [Toll.stalls_add]
          omega

theorem runs_wait {needAck needIdle : Bool} {result : Except Error Unit}
    (node : before.node = bus.node)
    (runs : Runs (bus.waitUntilFinished needAck needIdle).run before result after toll) :
    after = before ∧
      Waited needAck needIdle bus.config.pollAttempts before.status toll result :=
  runs_poll node runs

end ClockBoard.Bus
