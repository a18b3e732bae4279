import ClockBoard.Proofs.Bus.Bare
import ClockBoard.Proofs.Bus.Polls
import ClockBoard.Proofs.Link.Exchange
import ClockBoard.Proofs.Link.InTurn

/-!
A reset has a plan for either of its paths. Which path it takes is decided by the low bytes of two
words, and a full reset follows its plan up to the first write that fails.

The main statement is about any transport: it has the round trips of a reset and what the reset
comes to by them.
-/

namespace ClockBoard.Bus

open ClockBoard.Core ClockBoard.Link ClockBoard.Simulation

/-! ## Plans -/

def lookUp (bus : Bus) : List Operation :=
  [.read (bus.path .control), .read (bus.path .prescaleHigh), .read (bus.path .prescaleLow)]

def clearing (bus : Bus) : List Operation :=
  [.write (bus.path .data) 0, .write (bus.path .command) 0]

def resetPlan (bus : Bus) : List (List Operation) :=
  [ [.write (bus.path .control) 0],
    [.write (bus.path .prescaleHigh) (UInt32.ofNat (bus.prescale.toNat / 256))],
    [.write (bus.path .prescaleLow) (UInt32.ofNat (bus.prescale.toNat % 256))],
    [.write (bus.path .data) 0],
    [.write (bus.path .command) 0],
    [.write (bus.path .control) 0x80] ]

theorem toUInt32_of_toNat {byte : UInt8} {number : Nat} (same : byte.toNat = number) :
    byte.toUInt32 = UInt32.ofNat number := by
  rw [← same]
  exact (UInt32.ofNat_uInt8ToNat byte).symm

theorem programming_batches (bus : Bus) :
    (bus.programming.map fun step => [Operation.write (bus.path step.1) step.2]) =
      bus.resetPlan := by
  have off : Control.layout.toWord {} = 0 := by decide
  have on : Control.layout.toWord { enable := true } = 0x80 := by decide
  simp [programming, resetPlan, off, on, toUInt32_of_toNat (toNat_highByte _),
    toUInt32_of_toNat (toNat_lowByte _)]

theorem joinBytes_eq_prescale_iff (bus : Bus) (high low : UInt32) :
    joinBytes high.toUInt8 low.toUInt8 = bus.prescale ↔
      high.toNat % 256 * 256 + low.toNat % 256 = bus.prescale.toNat := by
  rw [← UInt16.toNat_inj, toNat_joinBytes]
  rfl

/-! ## Steps up to the first that fails -/

/-- Whether round trips follow a plan, batch by batch, up to the first that fails. -/
inductive Follows : List (List Operation) → List Exchange → Except Error Unit → Prop
  | finished : Follows [] [] (.ok ())
  | failed (batch : List Operation) (rest : List (List Operation)) (error : Link.Error) :
      Follows (batch :: rest) [⟨batch, .error error⟩] (.error (.link error))
  | passed (batch : List Operation) (values : List UInt32) {rest : List (List Operation)}
      {exchanged : List Exchange} {result : Except Error Unit}
      (others : Follows rest exchanged result) :
      Follows (batch :: rest) (⟨batch, .ok values⟩ :: exchanged) result

namespace Follows

variable {plan : List (List Operation)} {exchanged : List Exchange} {result : Except Error Unit}

theorem isPrefix (follows : Follows plan exchanged result) :
    exchanged.map Exchange.operations <+: plan := by
  induction follows with
  | finished => exact List.prefix_refl _
  | failed batch rest error => exact ⟨rest, rfl⟩
  | passed batch values others induction => exact (List.prefix_cons_inj batch).mpr induction

theorem cases (follows : Follows plan exchanged result) :
    (exchanged.map Exchange.operations = plan ∧ (∀ exchange ∈ exchanged, exchange.passed = true) ∧
        result = .ok ()) ∨
      ∃ done batch error, exchanged = done ++ [⟨batch, .error error⟩] ∧
        (∀ exchange ∈ done, exchange.passed = true) ∧ result = .error (.link error) := by
  induction follows with
  | finished => exact .inl ⟨rfl, nofun, rfl⟩
  | failed batch rest error => exact .inr ⟨[], batch, error, rfl, nofun, rfl⟩
  | passed batch values others induction =>
      rcases induction with ⟨rfl, well, ended⟩ | ⟨done, last, error, rfl, well, ended⟩
      · exact .inl ⟨rfl, List.forall_mem_cons.mpr ⟨rfl, well⟩, ended⟩
      · exact .inr ⟨_ :: done, last, error, rfl, List.forall_mem_cons.mpr ⟨rfl, well⟩, ended⟩

end Follows

/-! ## Resets on any board -/

section

variable {σ α : Type} [Transport σ] {board middle later : Board σ}

theorem makes_exchange {operations : List Operation} {answer : Except Link.Error (List UInt32)}
    (served : board.serve (.exchange operations) = (answer, later)) :
    Makes (exchange operations) board [⟨operations, answer⟩] (answer.mapError .link) later := by
  have first : (board.serve (.exchange operations)).1 = answer := congrArg Prod.fst served
  have second : (board.serve (.exchange operations)).2 = later := congrArg Prod.snd served
  subst first second
  exact ⟨rfl, rfl⟩

theorem makes_pure (value : α) (board : Board σ) :
    Makes (pure value : Action α) board [] (.ok value) board :=
  ⟨rfl, rfl⟩

theorem makes_writeRegister {bus : Bus} {register : Register} {value : UInt32}
    {answer : Except Link.Error (List UInt32)}
    (served : board.serve (.exchange [.write (bus.path register) value]) = (answer, later)) :
    Makes (bus.writeRegister register value) board
      [⟨[.write (bus.path register) value], answer⟩] ((answer.map fun _ => ()).mapError .link)
      later := by
  have sent := makes_exchange served
  cases answer with
  | error error => exact sent.bind_error
  | ok values => exact sent.bind_ok (makes_pure () later)

theorem makes_writes (bus : Bus) (steps : List (Register × UInt32)) (board : Board σ) :
    ∃ exchanged result later,
      Makes (steps.forM fun step => bus.writeRegister step.1 step.2) board exchanged result later ∧
        Follows (steps.map fun step => [.write (bus.path step.1) step.2]) exchanged result := by
  induction steps generalizing board with
  | nil => exact ⟨[], .ok (), board, makes_pure () board, .finished⟩
  | cons step rest induction =>
      rcases served : board.serve (.exchange [.write (bus.path step.1) step.2]) with
        ⟨answer, middle⟩
      have written := makes_writeRegister served
      cases answer with
      | error error => exact ⟨_, _, _, written.bind_error, .failed _ _ error⟩
      | ok values =>
          obtain ⟨exchanged, result, later, others, follows⟩ := induction middle
          exact ⟨_, result, later, written.bind_ok others, .passed _ values follows⟩

theorem makes_remark (bus : Bus) (level : Event.Level) (message : String)
    (fields : List (String × Event.Value)) (board : Board σ) :
    Makes (liftM (bus.remark level message fields) : Action Unit) board [] (.ok ())
      (board.noting [{ level, message, fields := ("node", .text bus.node) :: fields }]) := by
  rw [Board.noting_singleton]
  exact ⟨rfl, rfl⟩

def shortReset (bus : Bus) : Action ResetPath := do
  let _ ← exchange bus.clearing
  bus.remark .trace "Short I2C reset" []
  return .short

def fullReset (bus : Bus) (onBus : UInt16) (control : Control) : Action ResetPath := do
  bus.remark .debug "Prescale mismatch, fully resetting I2C core"
    [ ("on_bus", .number onBus.toNat),
      ("desired", .number bus.prescale.toNat),
      ("enabled", .flag control.enable) ]
  bus.programming.forM fun step => bus.writeRegister step.1 step.2
  return .full

theorem reset_eq (bus : Bus) :
    bus.reset = (do
      let values ← exchange bus.lookUp
      let control := Control.layout.ofWord (← resolve values 0)
      let high ← resolve values 1
      let low ← resolve values 2
      let onBus := joinBytes high.toUInt8 low.toUInt8
      if onBus = bus.prescale then bus.shortReset else bus.fullReset onBus control) :=
  rfl

theorem makes_shortReset {bus : Bus} {cleared : Except Link.Error (List UInt32)}
    (served : board.serve (.exchange bus.clearing) = (cleared, middle)) :
    ∃ later, Makes bus.shortReset board [⟨bus.clearing, cleared⟩]
        ((cleared.map fun _ => ResetPath.short).mapError .link) later ∧
      later.transport = middle.transport := by
  have sent := makes_exchange served
  cases cleared with
  | error error => exact ⟨middle, sent.bind_error, rfl⟩
  | ok values =>
      have noted := bus.makes_remark .trace "Short I2C reset" [] middle
      exact ⟨_, sent.bind_ok (noted.bind_ok (makes_pure ResetPath.short _)), rfl⟩

theorem makes_fullReset (bus : Bus) (onBus : UInt16) (control : Control) (board : Board σ) :
    ∃ exchanged ended later,
      Makes (bus.fullReset onBus control) board exchanged (ended.map fun _ => ResetPath.full)
        later ∧
      Follows bus.resetPlan exchanged ended := by
  have noted := bus.makes_remark .debug "Prescale mismatch, fully resetting I2C core"
    [ ("on_bus", .number onBus.toNat), ("desired", .number bus.prescale.toNat),
      ("enabled", .flag control.enable) ] board
  obtain ⟨exchanged, ended, later, writes, follows⟩ :=
    bus.makes_writes bus.programming (board.noting _)
  rw [programming_batches] at follows
  refine ⟨exchanged, ended, later, noted.bind_ok ?_, follows⟩
  cases ended with
  | error error => exact writes.bind_error
  | ok done =>
      rw [← List.append_nil exchanged]
      exact writes.bind_ok (makes_pure ResetPath.full later)

/-- Whether round trips and a result are those of the path that the prescale on a bus calls for. -/
def OnPath (bus : Bus) (onBus : UInt16) (rest : List Exchange) (result : Except Error ResetPath) :
    Prop :=
  if onBus = bus.prescale then
    ∃ cleared, rest = [⟨bus.clearing, cleared⟩] ∧
      result = (cleared.map fun _ => ResetPath.short).mapError .link
  else
    ∃ ended, Follows bus.resetPlan rest ended ∧ result = ended.map fun _ => ResetPath.full

theorem makes_path (bus : Bus) (onBus : UInt16) (control : Control) (board : Board σ) :
    ∃ rest result later,
      Makes (if onBus = bus.prescale then bus.shortReset else bus.fullReset onBus control) board
        rest result later ∧
      bus.OnPath onBus rest result := by
  unfold OnPath
  split
  · rcases served : board.serve (.exchange bus.clearing) with ⟨cleared, middle⟩
    obtain ⟨later, makes, _⟩ := makes_shortReset served
    exact ⟨_, _, later, makes, cleared, rfl, rfl⟩
  · obtain ⟨exchanged, ended, later, makes, follows⟩ := bus.makes_fullReset onBus control board
    exact ⟨exchanged, _, later, makes, ended, follows, rfl⟩

theorem makes_decided {bus : Bus} {control high low : UInt32} {more : List UInt32}
    {rest : List Exchange} {result : Except Error ResetPath}
    (served : board.serve (.exchange bus.lookUp) = (.ok (control :: high :: low :: more), middle))
    (makes : Makes
      (if joinBytes high.toUInt8 low.toUInt8 = bus.prescale then bus.shortReset
        else bus.fullReset (joinBytes high.toUInt8 low.toUInt8) (Control.layout.ofWord control))
      middle rest result later) :
    Makes bus.reset board
      (⟨bus.lookUp, .ok (control :: high :: low :: more)⟩ :: rest) result later := by
  rw [reset_eq]
  exact (makes_exchange served).bind_ok ⟨makes.run, makes.exchanges⟩

theorem makes_reset (bus : Bus) (board : Board σ) :
    ∃ answer rest result later,
      Makes bus.reset board (⟨bus.lookUp, answer⟩ :: rest) result later ∧
      match answer with
      | .error error => rest = [] ∧ result = .error (.link error)
      | .ok (_ :: high :: low :: _) => bus.OnPath (joinBytes high.toUInt8 low.toUInt8) rest result
      | .ok _ => rest = [] ∧ result = .error (.link .unresolvedRead) := by
  rcases served : board.serve (.exchange bus.lookUp) with ⟨answer, middle⟩
  have asked := makes_exchange served
  refine ⟨answer, ?_⟩
  match answer with
  | .error error => exact ⟨[], _, middle, asked.bind_error, rfl, rfl⟩
  | .ok [] => exact ⟨[], _, middle, asked.bind_ok ⟨rfl, rfl⟩, rfl, rfl⟩
  | .ok [_] => exact ⟨[], _, middle, asked.bind_ok ⟨rfl, rfl⟩, rfl, rfl⟩
  | .ok [_, _] => exact ⟨[], _, middle, asked.bind_ok ⟨rfl, rfl⟩, rfl, rfl⟩
  | .ok (control :: high :: low :: more) =>
      obtain ⟨rest, result, later, makes, onPath⟩ := bus.makes_path
        (joinBytes high.toUInt8 low.toUInt8) (Control.layout.ofWord control) middle
      exact ⟨rest, result, later, makes_decided served makes, onPath⟩

end

end ClockBoard.Bus
