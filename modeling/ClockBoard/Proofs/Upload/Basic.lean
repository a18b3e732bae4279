import ClockBoard.Proofs.Routine.Possible
import ClockBoard.Upload.Basic

/-!
What may become of an upload whose writer is known only by the answers that it may give. An
assignment is tried until a write goes well, or until its attempts are used up.

The main statements say that what holds of single assignments, and adds up, holds of whole uploads.
-/

namespace ClockBoard.Upload

universe w

variable {World : Type w} {Toll : Type} [AddMonoid Toll] {service : Service interface World Toll}
variable {before after : World} {toll : Toll}

/-! ## Attempts -/

/-- A number of attempts at an assignment, all of which failed. -/
inductive Tried (service : Service interface World Toll) (assignment : Assignment) :
    Nat → World → World → Toll → Prop
  | never (world : World) : Tried service assignment 0 world world 0
  | again {count : Nat} {before middle later after : World} {first second third : Toll}
      (reason : String) (event : Event)
      (failed : service (.write assignment.address assignment.value) before (.error reason) middle
        first)
      (noted : service (.note event) middle () later second)
      (rest : Tried service assignment count later after third) :
      Tried service assignment (count + 1) before after (first + (second + third))

theorem possible_attemptWrite {assignment : Assignment} {attempt left : Nat}
    {reason? result : Option String}
    (possible : (attemptWrite assignment attempt reason? left).Possible service before result after
      toll) :
    (result = none ∧ ∃ count middle first rest, Tried service assignment count before middle first ∧
        service (.write assignment.address assignment.value) middle (.ok ()) after rest ∧
        toll = first + rest) ∨
      (left = 0 ∧ result = reason? ∨ ∃ reason, result = some reason) ∧
        Tried service assignment left before after toll := by
  induction left generalizing attempt reason? before toll with
  | zero =>
      rcases possible with ⟨rfl, rfl, rfl⟩
      exact .inr ⟨.inl ⟨rfl, rfl⟩, .never _⟩
  | succ left induction =>
      rcases possible with ⟨answer, middle, first, rest, written, continued, rfl⟩
      cases answer with
      | ok _ =>
          rcases continued with ⟨rfl, rfl, rfl⟩
          exact .inl ⟨rfl, 0, before, 0, first, .never _, written, by rw [zero_add, add_zero]⟩
      | error reason =>
          rcases continued with ⟨_, later, second, third, noted, retried, rfl⟩
          rcases induction retried with
            ⟨rfl, count, last, fourth, fifth, tried, taken, rfl⟩ | ⟨ended, tried⟩
          · refine .inl ⟨rfl, count + 1, last, _, fifth, .again reason _ written noted tried, taken,
              ?_⟩
            rw [add_assoc, add_assoc]
          · refine .inr ⟨.inr ?_, .again reason _ written noted tried⟩
            rcases ended with ⟨_, rfl⟩ | ended
            · exact ⟨reason, rfl⟩
            · exact ended

theorem possible_writeAssignment {policy : Policy} {assignment : Assignment}
    {failure? : Option Failure}
    (possible : (writeAssignment policy assignment).Possible service before failure? after toll) :
    (failure? = none ∧ ∃ count middle first rest,
        Tried service assignment count before middle first ∧
        service (.write assignment.address assignment.value) middle (.ok ()) after rest ∧
        toll = first + rest) ∨
      ∃ failure, failure? = some failure ∧ failure.address = assignment.address ∧
        Tried service assignment (max policy.attempts 1) before after toll := by
  rcases (Routine.possible_map _ _ _).mp possible with ⟨reason?, attempted, rfl⟩
  rcases possible_attemptWrite attempted with ⟨rfl, applied⟩ | ⟨⟨none, _⟩ | ⟨reason, rfl⟩, tried⟩
  · exact .inl ⟨rfl, applied⟩
  · exact absurd none (by omega)
  · exact .inr ⟨_, rfl, rfl, tried⟩

/-! ## Uploads -/

theorem writeAll_cons (policy : Policy) (assignment : Assignment) (rest : List Assignment) :
    writeAll policy (assignment :: rest) =
      (writeAssignment policy assignment).bind fun failure? =>
        (writeAll policy rest).bind fun failures => .done (failure?.toList ++ failures) := by
  simp only [writeAll, List.mapM_cons, Routine.bind_eq_bind, Routine.pure_eq_done,
    Routine.bind_assoc, Routine.done_bind]
  refine congrArg (Routine.bind _) (funext fun failure? => ?_)
  refine congrArg (Routine.bind _) (funext fun failures => ?_)
  cases failure? <;> rfl

/-- What can be said about the course of an upload if it can be said about each assignment, and
about pauses and remarks, and adds up. It relates assignments and failures to the worlds before and
after and to the toll. -/
structure Account (service : Service interface World Toll) (policy : Policy)
    (Holds : List Assignment → List Failure → World → World → Toll → Prop) : Prop where
  idle : ∀ world, Holds [] [] world world 0
  settle : ∀ {milliseconds before after toll},
    service (.settle milliseconds) before () after toll → Holds [] [] before after toll
  note : ∀ {event before after toll},
    service (.note event) before () after toll → Holds [] [] before after toll
  write : ∀ {assignment failure? before after toll},
    (writeAssignment policy assignment).Possible service before failure? after toll →
    Holds [assignment] failure?.toList before after toll
  trans : ∀ {assignments others failures more before middle after first rest},
    Holds assignments failures before middle first → Holds others more middle after rest →
    Holds (assignments ++ others) (failures ++ more) before after (first + rest)

variable {policy : Policy}
variable {Holds : List Assignment → List Failure → World → World → Toll → Prop}

theorem Account.writeAll (account : Account service policy Holds) {assignments : List Assignment}
    {failures : List Failure}
    (possible : (writeAll policy assignments).Possible service before failures after toll) :
    Holds assignments failures before after toll := by
  induction assignments generalizing before failures toll with
  | nil =>
      rcases possible with ⟨rfl, rfl, rfl⟩
      exact account.idle _
  | cons assignment rest induction =>
      rw [writeAll_cons] at possible
      rcases (Routine.possible_bind _ _ _).mp possible with
        ⟨failure?, middle, first, _, written, continued, rfl⟩
      rcases (Routine.possible_map _ _ _).mp continued with ⟨others, more, rfl⟩
      exact account.trans (account.write written) (induction more)

theorem Account.finish (account : Account service policy Holds) {total : Nat}
    {failures : List Failure} {result : Except Error Outcome}
    (possible : (finish policy total failures).Possible service before result after toll) :
    result = conclude policy.mode failures ∧ Holds [] [] before after toll := by
  rcases possible with ⟨_, _, _, _, noted, ⟨rfl, rfl, rfl⟩, rfl⟩
  rw [add_zero]
  exact ⟨rfl, account.note noted⟩

theorem Account.uploadPlain (account : Account service policy Holds)
    {assignments : List Assignment} {result : Except Error Outcome}
    (possible : (uploadPlain policy assignments).Possible service before result after toll) :
    ∃ failures, result = conclude policy.mode failures ∧
      Holds assignments failures before after toll := by
  rcases (Routine.possible_ask_bind _ _ _).mp possible with ⟨_, _, _, _, noted, writing, rfl⟩
  rcases (Routine.possible_bind _ _ _).mp writing with
    ⟨failures, _, _, _, written, finishing, rfl⟩
  rcases account.finish finishing with ⟨rfl, finished⟩
  have holds := account.trans (account.note noted)
    (account.trans (account.writeAll written) finished)
  refine ⟨failures, rfl, ?_⟩
  simpa using holds

theorem Account.uploadSectioned (account : Account service policy Holds)
    {listing : Listing.Sectioned} {result : Except Error Outcome}
    (possible : (uploadSectioned policy listing).Possible service before result after toll) :
    ∃ failures, result = conclude policy.mode failures ∧
      Holds (listing.preamble ++ listing.registers ++ listing.postamble) failures before after
        toll := by
  rcases (Routine.possible_ask_bind _ _ _).mp possible with ⟨_, _, _, _, noted, first, rfl⟩
  rcases (Routine.possible_bind _ _ _).mp first with ⟨preamble, _, _, _, opening, second, rfl⟩
  rcases (Routine.possible_ask_bind _ _ _).mp second with ⟨_, _, _, _, settled, third, rfl⟩
  rcases (Routine.possible_bind _ _ _).mp third with ⟨registers, _, _, _, main, fourth, rfl⟩
  rcases (Routine.possible_bind _ _ _).mp fourth with ⟨postamble, _, _, _, closing, last, rfl⟩
  rcases account.finish last with ⟨rfl, finished⟩
  have holds := account.trans (account.note noted)
    (account.trans (account.writeAll opening)
      (account.trans (account.settle settled)
        (account.trans (account.writeAll main)
          (account.trans (account.writeAll closing) finished))))
  refine ⟨preamble ++ registers ++ postamble, rfl, ?_⟩
  simpa [List.append_assoc] using holds

/-! ## Reports -/

def reported : Except Error Outcome → List Failure
  | .ok .allApplied => []
  | .ok (.partiallyApplied failures) => failures
  | .error (.partiallyApplied failures) => failures
  | .error (.parse _) => []

@[simp] theorem reported_conclude (mode : Mode) (failures : List Failure) :
    reported (conclude mode failures) = failures := by
  unfold conclude
  cases failures with
  | nil => rfl
  | cons failure rest => cases mode <;> rfl

end ClockBoard.Upload
