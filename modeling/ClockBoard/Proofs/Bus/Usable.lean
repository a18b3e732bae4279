import ClockBoard.Proofs.Bus.Transaction

/-!
Nothing but a reset programs a core. So a core stays usable, or unusable, through all that a bus
does, unless a batch fails in the middle of programming, at one of the writes after which the
prescale may look right while the core is still switched off.

The main statement of this kind is made for every function of the bus, by going through its steps.
-/

namespace ClockBoard.Bus

open ClockBoard.Core ClockBoard.Link ClockBoard.Simulation

variable {bus : Bus} {before after : Circuit} {toll : Toll} {α β : Type}

/-- Whether a batch failed at one of the last four writes that program a core. -/
def Cut (bus : Bus) (failed : List (List Operation)) : Prop :=
  ∃ step ∈ bus.programming.drop 2, [.write (bus.path step.1) step.2] ∈ failed

theorem Cut.append_right {first : List (List Operation)} (cut : bus.Cut first)
    (rest : List (List Operation)) : bus.Cut (first ++ rest) := by
  rcases cut with ⟨step, member, failed⟩
  exact ⟨step, member, List.mem_append_left _ failed⟩

theorem Cut.append_left {rest : List (List Operation)} (cut : bus.Cut rest)
    (first : List (List Operation)) : bus.Cut (first ++ rest) := by
  rcases cut with ⟨step, member, failed⟩
  exact ⟨step, member, List.mem_append_right _ failed⟩

/-- Whether a routine makes no core usable, and leaves usable cores usable unless programming is
cut. -/
def Sustains (bus : Bus) (routine : Routine Link.interface α) : Prop :=
  ∀ before result after toll, before.node = bus.node → Runs routine before result after toll →
    (bus.Usable after → bus.Usable before) ∧
      (bus.Usable before → bus.Usable after ∨ bus.Cut toll.failed)

/-! ## Sequences -/

theorem sustains_done (value : α) : bus.Sustains (.done value) := by
  rintro before _ after toll _ ⟨_, rfl, _⟩
  exact ⟨id, .inl⟩

theorem sustains_bind {routine : Routine Link.interface α} {next : α → Routine Link.interface β}
    (first : bus.Sustains routine) (rest : ∀ value, bus.Sustains (next value)) :
    bus.Sustains (routine.bind next) := by
  intro before result after toll node runs
  rcases (Routine.possible_bind _ _ _).mp runs with
    ⟨value, middle, one, two, reached, continued, rfl⟩
  rcases first before value middle one node reached with ⟨earlier, middling⟩
  rcases rest value middle result after two ((runs_lasting reached).node.trans node) continued with
    ⟨later, ending⟩
  refine ⟨earlier ∘ later, ?_⟩
  intro usable
  rcases middling usable with stays | cut
  · rcases ending stays with stays | cut
    · exact .inl stays
    · exact .inr (cut.append_left _)
  · exact .inr (cut.append_right _)

theorem sustains_bind_run {action : Action α} {next : α → Action β}
    (first : bus.Sustains action.run) (rest : ∀ value, bus.Sustains (next value).run) :
    bus.Sustains (action >>= next).run := by
  apply sustains_bind first
  intro answer
  cases answer with
  | error error => exact sustains_done _
  | ok value => exact rest value

theorem sustains_lift (settled : Except Error α) :
    bus.Sustains (liftM settled : Action α).run :=
  sustains_done settled

theorem sustains_note_bind {event : Event} {next : Unit → Action α}
    (rest : bus.Sustains (next ()).run) :
    bus.Sustains ((liftM (Link.note event) : Action Unit) >>= next).run := by
  intro before result after toll node runs
  exact rest before result after toll node ((runs_note_bind _ _ _).mp runs)

/-! ## Accesses -/

/-- Whether accesses leave the control register and the prescale alone. -/
def Spares (bus : Bus) (operations : List Operation) : Prop :=
  ∀ operation ∈ operations, (∃ register, operation = .read (bus.path register)) ∨
    ∃ register value, operation = .write (bus.path register) value ∧
      (register = .data ∨ register = .command)

theorem Spares.perform {operations : List Operation} (spares : bus.Spares operations)
    {circuit : Circuit} (node : circuit.node = bus.node) :
    (Circuit.perform operations circuit).2.control = circuit.control ∧
      (Circuit.perform operations circuit).2.prescale = circuit.prescale := by
  induction operations generalizing circuit with
  | nil => exact ⟨rfl, rfl⟩
  | cons operation rest induction =>
      have others : bus.Spares rest := fun other member =>
        spares other (List.mem_cons_of_mem _ member)
      rcases spares operation List.mem_cons_self with
        ⟨register, rfl⟩ | ⟨register, value, rfl, plain⟩
      · have lasting := Circuit.read_lasting circuit register
        rw [perform_read node]
        rcases induction others (lasting.node.trans node) with ⟨control, prescale⟩
        rcases Circuit.read_programming circuit register with ⟨same, alike⟩
        exact ⟨control.trans same, prescale.trans alike⟩
      · have lasting := Circuit.write_lasting circuit value register
        rw [perform_write node]
        rcases induction others (lasting.node.trans node) with ⟨control, prescale⟩
        rcases plain with rfl | rfl
        · exact ⟨control, prescale⟩
        · have steady := Circuit.execute_steady circuit (Command.layout.ofWord value)
          exact ⟨control.trans steady.control, prescale.trans steady.prescale⟩

theorem Spares.knows {operations : List Operation} (spares : bus.Spares operations) :
    bus.Knows operations := by
  intro operation member
  rcases spares operation member with ⟨register, rfl⟩ | ⟨register, _, rfl, _⟩
  · exact ⟨register, rfl⟩
  · exact ⟨register, rfl⟩

theorem sustains_exchange {operations : List Operation} (spares : bus.Spares operations) :
    bus.Sustains (exchange operations).run := by
  intro before result after toll node runs
  cases result with
  | error error =>
      rcases runs_exchange_error node spares.knows runs with ⟨_, rfl, _⟩
      exact ⟨id, .inl⟩
  | ok values =>
      rcases runs_exchange_ok node runs with ⟨actual, rfl, under, _, rfl, _⟩
      rcases spares.perform under with ⟨control, prescale⟩
      have enabled : (Circuit.perform operations actual).2.enabled = actual.enabled :=
        congrArg Control.enable control
      have same : bus.Usable (Circuit.perform operations actual).2.calm ↔
          bus.Usable actual.calm := by
        unfold Usable
        rw [Circuit.calm_prescale, Circuit.calm_prescale, prescale]
        exact or_congr (Eq.congr_left enabled) Iff.rfl
      exact ⟨same.mp, fun usable => .inl (same.mpr usable)⟩

theorem sustains_readRegister (register : Register) :
    bus.Sustains (bus.readRegister register).run := by
  refine sustains_bind_run (sustains_exchange ?_) fun values => sustains_lift _
  intro operation member
  exact .inl ⟨register, List.mem_singleton.mp member⟩

theorem sustains_writeCommand (value : UInt32) :
    bus.Sustains (bus.writeRegister .command value).run := by
  refine sustains_bind_run (sustains_exchange ?_) fun _ => sustains_done _
  intro operation member
  exact .inr ⟨.command, value, List.mem_singleton.mp member, .inr rfl⟩

/-! ## Bytes -/

theorem sustains_poll (needAck needIdle : Bool) (attempt left : Nat) :
    bus.Sustains (bus.poll needAck needIdle attempt left).run := by
  induction left generalizing attempt with
  | zero => exact sustains_done _
  | succ left induction =>
      apply sustains_bind_run (sustains_readRegister .command)
      intro word
      apply sustains_note_bind
      split
      · exact sustains_done _
      · split
        · exact induction _
        · exact sustains_lift _

theorem sustains_sendByte (command : Command) (byte : UInt8) :
    bus.Sustains (bus.sendByte command byte).run := by
  apply sustains_bind_run (sustains_lift _)
  intro word
  refine sustains_bind_run (sustains_exchange ?_) fun _ => sustains_poll _ _ _ _
  intro operation member
  simp only [List.mem_cons, List.not_mem_nil, or_false] at member
  rcases member with rfl | rfl
  · exact .inr ⟨.data, _, rfl, .inl rfl⟩
  · exact .inr ⟨.command, _, rfl, .inr rfl⟩

theorem sustains_receiveByte (command : Command) :
    bus.Sustains (bus.receiveByte command).run := by
  apply sustains_bind_run (sustains_lift _)
  intro word
  apply sustains_bind_run (sustains_writeCommand word)
  intro _
  apply sustains_bind_run (sustains_poll _ _ _ _)
  intro _
  exact sustains_bind_run (sustains_readRegister .data) fun _ => sustains_done _

/-! ## Transactions -/

theorem sustains_reset : bus.Sustains bus.reset.run := by
  intro before result after toll node runs
  cases result with
  | ok path =>
      rcases runs_reset_ok node runs with ⟨_, right, works, _⟩
      refine ⟨?_, fun usable => .inl (.inl (works.mpr usable))⟩
      rintro (on | wrong)
      · exact works.mp on
      · exact absurd right wrong
  | error error =>
      rcases runs_reset node runs with
        ⟨_, _, _, rfl⟩ | ⟨wrong, done, step, rest, equal, failed, rfl⟩
      · exact ⟨id, .inl⟩
      · refine ⟨fun _ => .inr wrong, fun _ => ?_⟩
        rw [usable_program_iff equal wrong]
        by_cases early : done.length ≤ 1
        · exact .inl (.inl early)
        · refine .inr ⟨step, ?_, ?_⟩
          · rw [equal, List.drop_append_of_le_length (by omega)]
            exact List.mem_append_right _ List.mem_cons_self
          · rw [failed]
            exact List.mem_singleton_self _

theorem sustains_sendBytes (stop : Bool) (bytes : List UInt8) :
    bus.Sustains (bus.sendBytes stop bytes).run := by
  induction bytes with
  | nil => exact sustains_done _
  | cons byte rest induction => exact sustains_bind_run (sustains_sendByte _ _) fun _ => induction

theorem sustains_receiveBytes (received : List UInt8) (count : Nat) :
    bus.Sustains (bus.receiveBytes received count).run := by
  induction count generalizing received with
  | zero => exact sustains_done _
  | succ count induction =>
      exact sustains_bind_run (sustains_receiveByte _) fun byte => induction _

theorem sustains_writeBlock (address : UInt8) (bytes : List UInt8) (stop : Bool) :
    bus.Sustains (bus.writeBlock address bytes stop).run := by
  refine sustains_bind_run (sustains_lift _) fun _ => sustains_bind_run sustains_reset fun _ => ?_
  apply sustains_note_bind
  exact sustains_bind_run (sustains_sendByte _ _) fun _ => sustains_sendBytes _ _

theorem sustains_readBlock (address : UInt8) (count : Nat) :
    bus.Sustains (bus.readBlock address count).run := by
  refine sustains_bind_run (sustains_lift _) fun _ => sustains_bind_run sustains_reset fun _ => ?_
  apply sustains_note_bind
  exact sustains_bind_run (sustains_sendByte _ _) fun _ => sustains_receiveBytes _ _

theorem sustains_readArray (address register : UInt8) (count : Nat) :
    bus.Sustains (bus.readArray address register count).run :=
  sustains_bind_run (sustains_writeBlock _ _ _) fun _ => sustains_readBlock _ _

theorem sustains_tryAddress (address : UInt8) : bus.Sustains (bus.tryAddress address).run :=
  sustains_bind_run (sustains_lift _) fun _ =>
    sustains_bind_run sustains_reset fun _ => sustains_sendByte _ _

theorem sustains_note (event : Event) : bus.Sustains (Link.note event) := by
  intro before result after toll _ runs
  rcases (Routine.possible_ask_done _ _).mp runs with ⟨rfl, _⟩
  exact ⟨id, .inl⟩

theorem sustains_ping (address : UInt8) : bus.Sustains (bus.ping address) := by
  apply sustains_bind (sustains_tryAddress address)
  intro answer
  cases answer with
  | ok _ => exact sustains_done _
  | error error => exact sustains_bind (sustains_note _) fun _ => sustains_done _

theorem sustains_pingAll (addresses : List UInt8) : bus.Sustains (bus.pingAll addresses) := by
  induction addresses with
  | nil => exact sustains_done _
  | cons address rest induction =>
      refine sustains_bind (sustains_ping address) fun present => ?_
      exact sustains_bind induction fun found => sustains_done _

theorem sustains_scan : bus.Sustains bus.scan :=
  sustains_bind (sustains_pingAll _) fun _ => sustains_bind (sustains_note _) fun _ =>
    sustains_done _

end ClockBoard.Bus
