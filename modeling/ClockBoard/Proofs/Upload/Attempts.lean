import Mathlib.Data.List.Basic
import ClockBoard.Proofs.Upload.Basic

/-!
An upload with a writer of any make. All that the upload knows of its writer is how it answers, so
what becomes of an upload shows in the calls that the writer gets, and in the events.

The main statement is about plain uploads. It tells which attempts are made at each assignment,
which failures are reported, and what is said about both.
-/

namespace ClockBoard.Upload

variable {σ ε : Type}

structure Writer (σ ε : Type) where
  write : UInt16 → UInt8 → σ → Except ε Unit × σ
  settle : Nat → σ → σ
  /-- What an error says. -/
  text : ε → String

inductive Call (ε : Type)
  | write (address : UInt16) (value : UInt8) (answer : Except ε Unit)
  | settle (milliseconds : Nat)

def Call.failed : Call ε → Bool
  | .write _ _ (.error _) => true
  | _ => false

/-- A writer at work, with the calls that it got and the events that were noted, in order. -/
structure Work (σ ε : Type) where
  state : σ
  calls : List (Call ε)
  events : List Event

namespace Work

def start (state : σ) : Work σ ε where
  state
  calls := []
  events := []

def calling (work : Work σ ε) (call : Call ε) (state : σ) : Work σ ε :=
  { work with state, calls := work.calls ++ [call] }

def noting (work : Work σ ε) (event : Event) : Work σ ε :=
  { work with events := work.events ++ [event] }

end Work

namespace Writer

def serve (writer : Writer σ ε) :
    (request : Request) → Work σ ε → interface.Answer request × Work σ ε
  | .write address value, work =>
      let answered := writer.write address value work.state
      (answered.1.mapError writer.text,
        work.calling (.write address value answered.1) answered.2)
  | .settle milliseconds, work =>
      ((), work.calling (.settle milliseconds) (writer.settle milliseconds work.state))
  | .note event, work => ((), work.noting event)

def run {α : Type} (writer : Writer σ ε) (routine : Routine interface α) (work : Work σ ε) :
    α × Work σ ε :=
  routine.run writer.serve work

end Writer

/-! ## Courses of attempts -/

/-- The attempts at an assignment: the errors of those that failed, and whether one went well after
them. -/
structure Course (ε : Type) where
  errors : List ε
  applied : Bool

namespace Course

/-- The attempts end with the first that goes well, or at a limit. -/
def Within (course : Course ε) (limit : Nat) : Prop :=
  if course.applied then course.errors.length < limit else course.errors.length = limit

def answers (course : Course ε) : List (Except ε Unit) :=
  course.errors.map .error ++ if course.applied then [.ok ()] else []

def calls (assignment : Assignment) (course : Course ε) : List (Call ε) :=
  course.answers.map (.write assignment.address assignment.value)

def failure? (text : ε → String) (limit : Nat) (assignment : Assignment) (course : Course ε) :
    Option Failure :=
  if course.applied then none
  else
    some
      { address := assignment.address
        value := assignment.value
        attempts := limit
        reason := (course.errors.getLast?.map text).getD "" }

def warning (assignment : Assignment) (attempt : Nat) (reason : String) : Event where
  level := .warn
  message := "Register write failed"
  fields :=
    [ ("address", .number assignment.address.toNat),
      ("value", .number assignment.value.toNat),
      ("attempt", .number attempt),
      ("error", .text reason) ]

def warnings (text : ε → String) (assignment : Assignment) (first : Nat) (course : Course ε) :
    List Event :=
  course.errors.mapIdx fun index error => warning assignment (first + index) (text error)

theorem warnings_cons (text : ε → String) (assignment : Assignment) (first : Nat) (error : ε)
    (course : Course ε) :
    warnings text assignment first { course with errors := error :: course.errors } =
      warning assignment first (text error) :: warnings text assignment (first + 1) course := by
  simp only [warnings, List.mapIdx_cons, Nat.add_zero, Nat.add_assoc, Nat.add_comm 1]

theorem countP_failed_calls (assignment : Assignment) (course : Course ε) :
    (course.calls assignment).countP Call.failed = course.errors.length := by
  cases applied : course.applied <;>
    simp [calls, answers, applied, List.countP_map, Call.failed, Function.comp_def]

theorem level_of_mem_warnings {text : ε → String} {assignment : Assignment} {first : Nat}
    {course : Course ε} {event : Event} (member : event ∈ course.warnings text assignment first) :
    event.level = .warn := by
  rw [warnings, List.mem_mapIdx] at member
  rcases member with ⟨_, _, rfl⟩
  rfl

theorem countP_warnings (text : ε → String) (assignment : Assignment) (first : Nat)
    (course : Course ε) :
    (course.warnings text assignment first).countP (·.level = .warn) = course.errors.length := by
  rw [List.countP_eq_length.mpr fun event member => decide_eq_true (level_of_mem_warnings member)]
  exact List.length_mapIdx

end Course

/-! ## Attempts -/

namespace Writer

variable (writer : Writer σ ε)

structure Takes (assignment : Assignment) (first : Nat) (course : Course ε)
    (before after : Work σ ε) : Prop where
  calls : after.calls = before.calls ++ course.calls assignment
  events : after.events = before.events ++ course.warnings writer.text assignment first

theorem run_bind {α β : Type} (routine : Routine interface α) (next : α → Routine interface β)
    (work : Work σ ε) :
    writer.run (routine.bind next) work =
      writer.run (next (writer.run routine work).1) (writer.run routine work).2 := by
  simp only [run, Routine.run_bind]

theorem run_attemptWrite_succ (assignment : Assignment) (attempt : Nat) (reason? : Option String)
    (left : Nat) (work : Work σ ε) :
    writer.run (attemptWrite assignment attempt reason? (left + 1)) work =
      let answered := writer.write assignment.address assignment.value work.state
      let called :=
        work.calling (.write assignment.address assignment.value answered.1) answered.2
      match answered.1 with
      | .ok _ => (none, called)
      | .error error =>
          writer.run (attemptWrite assignment (attempt + 1) (some (writer.text error)) left)
            (called.noting (Course.warning assignment attempt (writer.text error))) := by
  simp only [run, attemptWrite, Upload.write, Routine.bind_eq_bind, Routine.ask_bind,
    Routine.done_bind, Routine.run, serve]
  cases (writer.write assignment.address assignment.value work.state).1 <;> rfl

theorem run_attemptWrite (assignment : Assignment) (attempt : Nat) (reason? : Option String)
    (left : Nat) (work : Work σ ε) :
    let ran := writer.run (attemptWrite assignment attempt reason? left) work
    ∃ course : Course ε, course.Within left ∧
      ran.1 = (if course.applied then none
        else (course.errors.getLast?.map writer.text).or reason?) ∧
      writer.Takes assignment attempt course work ran.2 := by
  induction left generalizing attempt reason? work with
  | zero => exact ⟨⟨[], false⟩, rfl, rfl, (List.append_nil _).symm, (List.append_nil _).symm⟩
  | succ left induction =>
      intro ran
      have step : ran = _ := run_attemptWrite_succ writer assignment attempt reason? left work
      cases answered : (writer.write assignment.address assignment.value work.state).1 with
      | ok _ =>
          simp only [answered] at step
          refine ⟨⟨[], true⟩, Nat.succ_pos left, congrArg Prod.fst step, ?_, ?_⟩
          · rw [step]
            rfl
          · rw [step]
            exact (List.append_nil _).symm
      | error error =>
          simp only [answered] at step
          rcases induction (attempt + 1) (some (writer.text error)) _ with
            ⟨course, within, result, calls, events⟩
          rw [← step] at result calls events
          refine ⟨⟨error :: course.errors, course.applied⟩, ?_, ?_, ?_, ?_⟩
          · simpa [Course.Within] using within
          · rw [result, List.getLast?_cons]
            cases course.errors.getLast? <;> rfl
          · simpa [Work.calling, Work.noting, Course.calls, Course.answers] using calls
          · rw [events, Course.warnings_cons]
            simp [Work.calling, Work.noting]

theorem run_writeAssignment (policy : Policy) (assignment : Assignment) (work : Work σ ε) :
    let ran := writer.run (writeAssignment policy assignment) work
    let limit := max policy.attempts 1
    ∃ course : Course ε, course.Within limit ∧
      ran.1 = course.failure? writer.text limit assignment ∧
      writer.Takes assignment 1 course work ran.2 := by
  intro ran limit
  have equal : ran = ((writer.run (attemptWrite assignment 1 none limit) work).1.map fun reason =>
        { address := assignment.address, value := assignment.value, attempts := limit, reason },
      (writer.run (attemptWrite assignment 1 none limit) work).2) :=
    writer.run_bind _ _ work
  rcases writer.run_attemptWrite assignment 1 none limit work with ⟨course, within, result, takes⟩
  refine ⟨course, within, ?_, by rwa [equal]⟩
  rw [equal]
  dsimp only
  rw [result, Course.failure?]
  cases applied : course.applied with
  | true => rfl
  | false =>
      -- There is a last error, for one attempt is made in any case.
      have some : course.errors ≠ [] := by
        intro none
        simp only [Course.Within, applied, Bool.false_eq_true, if_false, none] at within
        have least : 1 ≤ limit := Nat.le_max_right _ _
        simp only [List.length_nil] at within
        omega
      rw [List.getLast?_eq_some_getLast some]
      rfl

/-! ## Lists of assignments -/

structure Follows (limit : Nat) (tried : List (Assignment × Course ε)) (failures : List Failure)
    (before after : Work σ ε) : Prop where
  within : ∀ pair ∈ tried, pair.2.Within limit
  failures : failures = tried.filterMap fun pair => pair.2.failure? writer.text limit pair.1
  calls : after.calls = before.calls ++ tried.flatMap fun pair => pair.2.calls pair.1
  events : after.events =
    before.events ++ tried.flatMap fun pair => pair.2.warnings writer.text pair.1 1

theorem run_writeAll (policy : Policy) (assignments : List Assignment) (work : Work σ ε) :
    let ran := writer.run (writeAll policy assignments) work
    ∃ tried : List (Assignment × Course ε), tried.map Prod.fst = assignments ∧
      writer.Follows (max policy.attempts 1) tried ran.1 work ran.2 := by
  induction assignments generalizing work with
  | nil => exact ⟨[], rfl, by simp, rfl, (List.append_nil _).symm, (List.append_nil _).symm⟩
  | cons assignment rest induction =>
      intro ran
      have one := writer.run_writeAssignment policy assignment work
      have others := induction (writer.run (writeAssignment policy assignment) work).2
      have equal : ran = ((writer.run (writeAssignment policy assignment) work).1.toList ++
          (writer.run (writeAll policy rest)
            (writer.run (writeAssignment policy assignment) work).2).1,
          (writer.run (writeAll policy rest)
            (writer.run (writeAssignment policy assignment) work).2).2) := by
        rw [show ran = _ from congrArg (writer.run · work) (writeAll_cons policy assignment rest),
          run_bind, run_bind]
        rfl
      rcases one with ⟨course, within, failure, takes⟩
      rcases others with ⟨tried, same, follows⟩
      refine ⟨(assignment, course) :: tried, congrArg (assignment :: ·) same, ?_, ?_, ?_, ?_⟩
      · simpa using ⟨within, fun a c member => follows.within (a, c) member⟩
      · rw [equal, failure, follows.failures, List.filterMap_cons]
        cases course.failure? writer.text (max policy.attempts 1) assignment <;> rfl
      · rw [equal, follows.calls, takes.calls, List.append_assoc, List.flatMap_cons]
      · rw [equal, follows.events, takes.events, List.append_assoc, List.flatMap_cons]

end Writer

/-! ## Uploads -/

def opening (total : Nat) : Event where
  level := .debug
  message := "Uploading registers"
  fields := [("n", .number total)]

def closing (applied failed : Nat) : Event where
  level := .info
  message := "Register upload complete"
  fields := [("applied", .number applied), ("failed", .number failed)]

theorem run_uploadPlain (writer : Writer σ ε) (policy : Policy)
    (assignments : List Assignment) (work : Work σ ε) :
    writer.run (uploadPlain policy assignments) work =
      let wrote :=
        writer.run (writeAll policy assignments) (work.noting (opening assignments.length))
      (conclude policy.mode wrote.1,
        wrote.2.noting (closing (assignments.length - wrote.1.length) wrote.1.length)) :=
  writer.run_bind (writeAll policy assignments) _ (work.noting (opening assignments.length))

theorem writeAll_congr {policy other : Policy}
    (same : max other.attempts 1 = max policy.attempts 1) : writeAll other = writeAll policy := by
  have each : writeAssignment other = writeAssignment policy := by
    funext assignment
    simp only [writeAssignment, same]
  funext assignments
  simp only [writeAll, each]

theorem countP_flatMap_warnings (text : ε → String) (tried : List (Assignment × Course ε)) :
    (tried.flatMap fun pair => pair.2.warnings text pair.1 1).countP (·.level = .warn) =
      (tried.flatMap fun pair => pair.2.calls pair.1).countP Call.failed := by
  simp only [List.countP_flatMap, Function.comp_def, Course.countP_warnings,
    Course.countP_failed_calls]

theorem conclude_of_ne_nil {failures : List Failure} (some : failures ≠ []) (mode : Mode) :
    conclude mode failures = match mode with
      | .strict => .error (.partiallyApplied failures)
      | .bestEffort => .ok (.partiallyApplied failures) := by
  cases failures with
  | nil => exact absurd rfl some
  | cons failure rest => rfl

theorem conclude_eq_applied_iff (mode : Mode) (failures : List Failure) :
    conclude mode failures = .ok .allApplied ↔ failures = [] := by
  constructor
  · intro applied
    have none := congrArg reported applied
    rwa [reported_conclude] at none
  · rintro rfl
    rfl

theorem length_failures_le (text : ε → String) (limit : Nat)
    (tried : List (Assignment × Course ε)) :
    (tried.filterMap fun pair => pair.2.failure? text limit pair.1).length ≤ tried.length :=
  List.length_filterMap_le _ _

/-- A plain upload makes the attempts that its policy promises and reports what has failed. The
mode decides only how it reports that, and showing the progress changes nothing. -/
theorem uploadPlain_attempts (writer : Writer σ ε) (policy : Policy)
    (assignments : List Assignment) (state : σ) :
    let ran := writer.run (uploadPlain policy assignments) (.start state)
    let limit := max policy.attempts 1
    ∃ tried : List (Assignment × Course ε),
      tried.map Prod.fst = assignments ∧ (∀ pair ∈ tried, pair.2.Within limit) ∧
      let failures := tried.filterMap fun pair => pair.2.failure? writer.text limit pair.1
      (ran.2.calls = tried.flatMap fun pair => pair.2.calls pair.1) ∧
      (ran.1 = .ok .allApplied ↔ failures = []) ∧
      (failures ≠ [] → ran.1 = match policy.mode with
        | .strict => .error (.partiallyApplied failures)
        | .bestEffort => .ok (.partiallyApplied failures)) ∧
      ran.2.events.countP (·.level = .warn) = ran.2.calls.countP Call.failed ∧
      (∃ applied, applied + failures.length = assignments.length ∧
        ran.2.events.filter (·.level = .info) = [closing applied failures.length]) ∧
      ∀ other : Policy, max other.attempts 1 = limit →
        let others := writer.run (uploadPlain other assignments) (.start state)
        others.2 = ran.2 ∧ reported others.1 = failures := by
  intro ran limit
  have equal : ran = _ := run_uploadPlain writer policy assignments (.start state)
  rcases writer.run_writeAll policy assignments
      ((Work.start state).noting (opening assignments.length)) with ⟨tried, same, follows⟩
  have count : tried.length = assignments.length := by rw [← same, List.length_map]
  have atMost := length_failures_le writer.text limit tried
  rw [← follows.failures] at atMost
  have quiet : (tried.flatMap fun pair => pair.2.warnings writer.text pair.1 1).filter
      (·.level = .info) = [] := by
    rw [List.filter_eq_nil_iff]
    intro event member
    rcases List.mem_flatMap.mp member with ⟨pair, _, said⟩
    rw [Course.level_of_mem_warnings said]
    decide
  generalize written : writer.run (writeAll policy assignments)
    ((Work.start state).noting (opening assignments.length)) = wrote at equal follows atMost
  have calls : ran.2.calls = tried.flatMap fun pair => pair.2.calls pair.1 := by
    rw [equal]
    exact follows.calls
  have events : ran.2.events = opening assignments.length ::
      (tried.flatMap fun pair => pair.2.warnings writer.text pair.1 1) ++
      [closing (assignments.length - wrote.1.length) wrote.1.length] := by
    rw [equal]
    exact congrArg (· ++ _) follows.events
  refine ⟨tried, same, follows.within, ?_⟩
  rw [← follows.failures]
  refine ⟨calls, ?_, ?_, ?_, ?_, ?_⟩
  · rw [equal]
    exact conclude_eq_applied_iff _ _
  · intro some
    rw [equal]
    exact conclude_of_ne_nil some _
  · rw [events, calls, List.countP_append, List.countP_cons, countP_flatMap_warnings]
    rfl
  · refine ⟨_, Nat.sub_add_cancel (count ▸ atMost), ?_⟩
    rw [events, List.filter_append, List.filter_cons, quiet]
    rfl
  · intro other alike others
    have equal' : others = _ := run_uploadPlain writer other assignments (.start state)
    rw [writeAll_congr alike, written] at equal'
    rw [equal', equal]
    exact ⟨rfl, reported_conclude _ _⟩

end ClockBoard.Upload
