import Mathlib.Algebra.Group.Defs
import ClockBoard.Routine

/-!
A world need not answer a request in one way only. This module says what may become of a routine in
such a world, and what it is charged for on the way: every request may take a toll, and the tolls
of a routine add up.

The main statements take a possible course of a routine apart along the structure of the routine.
-/

namespace ClockBoard

universe u v w

/-- The answers that a world may give to a request, with the world it turns into and the toll it
takes. -/
abbrev Service (interface : Interface.{u}) (World : Type w) (Toll : Type) :=
  (request : interface.Request) → World → interface.Answer request → World → Toll → Prop

namespace Routine

variable {interface : Interface.{u}} {target : Interface.{v}} {World : Type w} {Toll : Type}
variable {α β ε : Type} [AddMonoid Toll]

/-- Whether a routine that starts in one world may end with a result in another, at the cost of a
toll. -/
def Possible (service : Service interface World Toll) :
    Routine interface α → World → α → World → Toll → Prop
  | .done value, before, result, after, toll => result = value ∧ after = before ∧ toll = 0
  | .ask request next, before, result, after, toll =>
      ∃ answer middle first rest, service request before answer middle first ∧
        (next answer).Possible service middle result after rest ∧ toll = first + rest

variable {service : Service interface World Toll} {before after : World} {toll : Toll}

@[simp] theorem possible_ask_done (request : interface.Request)
    (result : interface.Answer request) :
    (ask request done).Possible service before result after toll ↔
      service request before result after toll := by
  constructor
  · rintro ⟨answer, middle, first, rest, served, ⟨rfl, rfl, rfl⟩, rfl⟩
    rwa [add_zero]
  · intro served
    exact ⟨result, after, toll, 0, served, ⟨rfl, rfl, rfl⟩, (add_zero toll).symm⟩

theorem possible_ask_bind (request : interface.Request)
    (next : interface.Answer request → Routine interface β) (result : β) :
    ((ask request done).bind next).Possible service before result after toll ↔
      ∃ answer middle first rest, service request before answer middle first ∧
        (next answer).Possible service middle result after rest ∧ toll = first + rest :=
  Iff.rfl

theorem possible_bind (routine : Routine interface α) (next : α → Routine interface β)
    (result : β) :
    (routine.bind next).Possible service before result after toll ↔
      ∃ value middle first rest, routine.Possible service before value middle first ∧
        (next value).Possible service middle result after rest ∧ toll = first + rest := by
  induction routine generalizing before toll with
  | done value =>
      constructor
      · intro possible
        exact ⟨value, before, 0, toll, ⟨rfl, rfl, rfl⟩, possible, (zero_add toll).symm⟩
      · rintro ⟨_, _, _, rest, ⟨rfl, rfl, rfl⟩, possible, rfl⟩
        rwa [zero_add]
  | ask request rest induction =>
      constructor
      · rintro ⟨answer, middle, first, others, served, possible, rfl⟩
        rcases (induction answer).mp possible with
          ⟨value, later, second, third, reached, continued, rfl⟩
        exact ⟨value, later, first + second, third,
          ⟨answer, middle, first, second, served, reached, rfl⟩, continued,
          (add_assoc first second third).symm⟩
      · rintro ⟨value, later, _, third,
          ⟨answer, middle, first, second, served, reached, rfl⟩, continued, rfl⟩
        exact ⟨answer, middle, first, second + third, served,
          (induction answer).mpr ⟨value, later, second, third, reached, continued, rfl⟩,
          add_assoc first second third⟩

theorem possible_map (routine : Routine interface α) (view : α → β) (result : β) :
    (routine.bind fun value => done (view value)).Possible service before result after toll ↔
      ∃ value, routine.Possible service before value after toll ∧ result = view value := by
  rw [possible_bind]
  constructor
  · rintro ⟨value, _, first, _, possible, ⟨rfl, rfl, rfl⟩, rfl⟩
    exact ⟨value, by rwa [add_zero], rfl⟩
  · rintro ⟨value, possible, rfl⟩
    exact ⟨value, after, toll, 0, possible, ⟨rfl, rfl, rfl⟩, (add_zero toll).symm⟩

/-- What may become of a routine that is carried out by others is what may become of it where each
request is served by the routine that carries it out. -/
theorem possible_carryOut {service : Service target World Toll}
    (plan : (request : interface.Request) → Routine target (interface.Answer request))
    (routine : Routine interface α) (result : α) :
    (routine.carryOut plan).Possible service before result after toll ↔
      routine.Possible (fun request => (plan request).Possible service) before result after
        toll := by
  induction routine generalizing before toll with
  | done value => rfl
  | ask request next induction =>
      simp only [carryOut, possible_bind, Possible, induction]

theorem Possible.keeps (Kept : World → Prop)
    (step : ∀ request world answer later toll, service request world answer later toll →
      Kept world → Kept later)
    {routine : Routine interface α} {result : α}
    (possible : routine.Possible service before result after toll) (kept : Kept before) :
    Kept after := by
  induction routine generalizing before toll with
  | done value =>
      rcases possible with ⟨rfl, rfl, rfl⟩
      exact kept
  | ask request next induction =>
      rcases possible with ⟨answer, middle, first, rest, served, continued, rfl⟩
      exact induction answer continued (step request before answer middle first served kept)

/-! ## Routines that may fail -/

@[simp] theorem possible_pure_run (value : α) (result : Except ε α) :
    (pure value : ExceptT ε (Routine interface) α).run.Possible service before result after
        toll ↔
      result = .ok value ∧ after = before ∧ toll = 0 :=
  Iff.rfl

@[simp] theorem possible_liftExcept_run (settled result : Except ε α) :
    (liftM settled : ExceptT ε (Routine interface) α).run.Possible service before result after
        toll ↔
      result = settled ∧ after = before ∧ toll = 0 :=
  Iff.rfl

theorem possible_liftOk_bind_run (value : α) (next : α → ExceptT ε (Routine interface) β)
    (result : Except ε β) :
    ((liftM (.ok value : Except ε α) : ExceptT ε (Routine interface) α) >>= next).run.Possible
        service before result after toll ↔
      (next value).run.Possible service before result after toll :=
  Iff.rfl

theorem possible_lift_run (routine : Routine interface α) (result : Except ε α) :
    (liftM routine : ExceptT ε (Routine interface) α).run.Possible service before result after
        toll ↔
      ∃ value, routine.Possible service before value after toll ∧ result = .ok value :=
  possible_map routine Except.ok result

theorem possible_bind_run (action : ExceptT ε (Routine interface) α)
    (next : α → ExceptT ε (Routine interface) β) (result : Except ε β) :
    (action >>= next).run.Possible service before result after toll ↔
      (∃ error, result = .error error ∧
        action.run.Possible service before (.error error) after toll) ∨
      ∃ value middle first rest, action.run.Possible service before (.ok value) middle first ∧
        (next value).run.Possible service middle result after rest ∧ toll = first + rest := by
  change (action.run.bind (ExceptT.bindCont next)).Possible service before result after toll ↔ _
  rw [possible_bind]
  constructor
  · rintro ⟨value, middle, first, rest, possible, continued, rfl⟩
    cases value with
    | error error =>
        rcases continued with ⟨rfl, rfl, rfl⟩
        exact .inl ⟨error, rfl, by rwa [add_zero]⟩
    | ok value => exact .inr ⟨value, middle, first, rest, possible, continued, rfl⟩
  · rintro (⟨error, rfl, possible⟩ | ⟨value, middle, first, rest, possible, continued, rfl⟩)
    · exact ⟨.error error, after, toll, 0, possible, ⟨rfl, rfl, rfl⟩, (add_zero toll).symm⟩
    · exact ⟨.ok value, middle, first, rest, possible, continued, rfl⟩

theorem possible_bind_pure_run (action : ExceptT ε (Routine interface) α) (view : α → β)
    (result : Except ε β) :
    (action >>= fun value => pure (view value)).run.Possible service before result after toll ↔
      ∃ answer, action.run.Possible service before answer after toll ∧
        result = answer.map view := by
  rw [← possible_map]
  have same : ExceptT.bindCont (fun value => pure (view value)) =
      fun answer : Except ε α => (done (answer.map view) : Routine interface (Except ε β)) := by
    funext answer
    cases answer <;> rfl
  change (action.run.bind _).Possible service before result after toll ↔ _
  rw [same]

end Routine

end ClockBoard
