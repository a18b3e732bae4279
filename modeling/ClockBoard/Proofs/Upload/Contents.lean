import ClockBoard.Proofs.Upload.Basic

/-!
What a chip holds after an upload. A register that is not reported as failed holds the value of the
last assignment to it, whatever became of the attempts before: an attempt may change no register
but its own, and one that goes well leaves its value there.
-/

namespace ClockBoard.Upload

universe w

def lastValue? (assignments : List Assignment) (address : UInt16) : Option UInt8 :=
  (assignments.filter fun assignment => assignment.address == address).getLast?.map
    Assignment.value

theorem lastValue?_singleton (assignment : Assignment) (address : UInt16) :
    lastValue? [assignment] address =
      if assignment.address = address then some assignment.value else none := by
  unfold lastValue?
  by_cases same : assignment.address = address <;> simp [same]

theorem lastValue?_append (first rest : List Assignment) (address : UInt16) :
    lastValue? (first ++ rest) address =
      (lastValue? rest address).or (lastValue? first address) := by
  unfold lastValue?
  rw [List.filter_append, List.getLast?_append]
  cases (rest.filter fun assignment => assignment.address == address).getLast? <;> rfl

variable {World : Type w} {Toll : Type} [AddMonoid Toll]

/-- What can be relied on of the registers behind a writer. `Counts` tells the registers about
which anything is said. -/
structure Holding (service : Service interface World Toll) where
  Ready : World → Prop
  Counts : UInt16 → Prop
  content : World → UInt16 → Option UInt8
  ready : ∀ {request before answer after toll},
    service request before answer after toll → Ready before → Ready after
  settled : ∀ {milliseconds before after toll},
    service (.settle milliseconds) before () after toll → content after = content before
  noted : ∀ {event before after toll},
    service (.note event) before () after toll → content after = content before
  others : ∀ {address value before answer after toll},
    service (.write address value) before answer after toll → Ready before →
    ∀ other, Counts other → other ≠ address → content after other = content before other
  taken : ∀ {address value before after toll},
    service (.write address value) before (.ok ()) after toll → Ready before →
    Counts address → content after address = some value

namespace Holding

variable {service : Service interface World Toll} {before after : World} {toll : Toll}

/-- Whether the registers that are not reported as failed hold what was assigned to them last, and
those to which nothing was assigned what they held before. -/
def Reflects (holding : Holding service) (assignments : List Assignment)
    (failures : List Failure) (before after : World) (_ : Toll) : Prop :=
  holding.Ready before → holding.Ready after ∧
    ∀ address, holding.Counts address → address ∉ failures.map Failure.address →
      holding.content after address =
        (lastValue? assignments address).or (holding.content before address)

theorem tried (holding : Holding service) {assignment : Assignment} {count : Nat}
    (tried : Tried service assignment count before after toll) (ready : holding.Ready before) :
    holding.Ready after ∧ ∀ other, holding.Counts other → other ≠ assignment.address →
      holding.content after other = holding.content before other := by
  induction tried with
  | never world => exact ⟨ready, fun _ _ _ => rfl⟩
  | again reason event failed noted rest induction =>
      rcases induction (holding.ready noted (holding.ready failed ready)) with ⟨last, same⟩
      refine ⟨last, ?_⟩
      intro other counts differs
      rw [same other counts differs, holding.noted noted]
      exact holding.others failed ready other counts differs

theorem account (holding : Holding service) (policy : Policy) :
    Account service policy holding.Reflects where
  idle world ready := ⟨ready, fun _ _ _ => rfl⟩
  settle settled ready :=
    ⟨holding.ready settled ready, fun _ _ _ => congrFun (holding.settled settled) _⟩
  note noted ready :=
    ⟨holding.ready noted ready, fun _ _ _ => congrFun (holding.noted noted) _⟩
  write {assignment failure? before after toll} possible ready := by
    rcases possible_writeAssignment possible with
      ⟨rfl, count, middle, first, rest, tried, taken, rfl⟩ | ⟨failure, rfl, aimed, tried⟩
    · rcases holding.tried tried ready with ⟨reached, same⟩
      refine ⟨holding.ready taken reached, ?_⟩
      intro address counts _
      rw [lastValue?_singleton]
      by_cases hit : assignment.address = address
      · subst hit
        rw [if_pos rfl]
        exact holding.taken taken reached counts
      · rw [if_neg hit, Option.none_or, holding.others taken reached address counts (Ne.symm hit)]
        exact same address counts (Ne.symm hit)
    · rcases holding.tried tried ready with ⟨reached, same⟩
      refine ⟨reached, ?_⟩
      intro address counts spared
      have differs : address ≠ assignment.address := by
        rintro rfl
        simp [aimed] at spared
      rw [lastValue?_singleton, if_neg (Ne.symm differs), Option.none_or]
      exact same address counts differs
  trans one two ready := by
    rcases one ready with ⟨reached, first⟩
    rcases two reached with ⟨last, second⟩
    refine ⟨last, ?_⟩
    intro address counts spared
    rw [List.map_append, List.mem_append, not_or] at spared
    rw [second address counts spared.2, first address counts spared.1, lastValue?_append,
      Option.or_assoc]

end Holding

end ClockBoard.Upload
