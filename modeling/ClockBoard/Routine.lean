/-!
Routines are programs that touch the world only through requests. A routine is a value: it can be
run against any world that serves its requests, or be carried out by routines of a lower level.

The main statements say that running and carrying out respect sequencing, and that carrying a
routine out and then running the result is running it against the world seen through the plan.
-/

namespace ClockBoard

universe u v w

structure Interface where
  Request : Type u
  Answer : Request → Type

inductive Routine (interface : Interface.{u}) (value : Type) : Type u
  | done (result : value)
  | ask (request : interface.Request)
      (next : interface.Answer request → Routine interface value)

namespace Routine

variable {interface : Interface.{u}} {target : Interface.{v}} {World : Type w} {α β : Type}

def request (request : interface.Request) : Routine interface (interface.Answer request) :=
  .ask request .done

def bind (routine : Routine interface α) (next : α → Routine interface β) :
    Routine interface β :=
  match routine with
  | .done result => next result
  | .ask request rest => .ask request fun answer => (rest answer).bind next

instance : Monad (Routine interface) where
  pure := .done
  bind := bind

def run (serve : (request : interface.Request) → World → interface.Answer request × World) :
    Routine interface α → World → α × World
  | .done result, world => (result, world)
  | .ask request next, world =>
      let served := serve request world
      (next served.1).run serve served.2

/-- Carry a routine out by routines of another interface, one for each request. -/
def carryOut (plan : (request : interface.Request) → Routine target (interface.Answer request)) :
    Routine interface α → Routine target α
  | .done result => .done result
  | .ask request next => (plan request).bind fun answer => (next answer).carryOut plan

/-! ## Laws -/

@[simp] theorem pure_eq_done (result : α) : (pure result : Routine interface α) = .done result :=
  rfl

@[simp] theorem bind_eq_bind (routine : Routine interface α) (next : α → Routine interface β) :
    routine >>= next = routine.bind next := rfl

@[simp] theorem done_bind (result : α) (next : α → Routine interface β) :
    (done result).bind next = next result := rfl

@[simp] theorem ask_bind (request : interface.Request)
    (rest : interface.Answer request → Routine interface α) (next : α → Routine interface β) :
    (ask request rest).bind next = ask request fun answer => (rest answer).bind next :=
  rfl

theorem bind_done (routine : Routine interface α) : routine.bind done = routine := by
  induction routine with
  | done result => rfl
  | ask request next induction => exact congrArg (ask request) (funext induction)

theorem bind_assoc {γ : Type} (routine : Routine interface α) (first : α → Routine interface β)
    (second : β → Routine interface γ) :
    (routine.bind first).bind second = routine.bind fun result => (first result).bind second := by
  induction routine with
  | done result => rfl
  | ask request next induction => exact congrArg (ask request) (funext induction)

instance : LawfulMonad (Routine interface) :=
  LawfulMonad.mk' _ bind_done (fun _ _ => rfl) bind_assoc

@[simp] theorem run_done
    (serve : (request : interface.Request) → World → interface.Answer request × World)
    (result : α) (world : World) : (done result).run serve world = (result, world) := rfl

theorem run_bind
    (serve : (request : interface.Request) → World → interface.Answer request × World)
    (routine : Routine interface α) (next : α → Routine interface β) (world : World) :
    (routine.bind next).run serve world =
      (next (routine.run serve world).1).run serve (routine.run serve world).2 := by
  induction routine generalizing world with
  | done result => rfl
  | ask request rest induction => exact induction _ _

theorem carryOut_bind
    (plan : (request : interface.Request) → Routine target (interface.Answer request))
    (routine : Routine interface α) (next : α → Routine interface β) :
    (routine.bind next).carryOut plan =
      (routine.carryOut plan).bind fun result => (next result).carryOut plan := by
  induction routine with
  | done result => rfl
  | ask request rest induction =>
      simp only [ask_bind, carryOut, induction, bind_assoc]

theorem run_carryOut
    (serve : (request : target.Request) → World → target.Answer request × World)
    (plan : (request : interface.Request) → Routine target (interface.Answer request))
    (routine : Routine interface α) (world : World) :
    (routine.carryOut plan).run serve world =
      routine.run (fun request => (plan request).run serve) world := by
  induction routine generalizing world with
  | done result => rfl
  | ask request next induction =>
      rw [carryOut, run_bind, induction]
      rfl

end Routine

end ClockBoard
