import ClockBoard.Proofs.Bus.Bare
import ClockBoard.Proofs.Bus.Byte
import ClockBoard.Proofs.Routine.Coupled
import ClockBoard.Proofs.Simulation.Agreement
import ClockBoard.Proofs.Simulation.Built

/-!
What an earlier transaction has left behind makes no difference to the next one. A reset and the
first address byte put all of it out of the way before anyone looks at it, and so does each byte
that follows, whether the transaction goes well or not.

The main statement compares two circuits that differ in nothing else.
-/

namespace ClockBoard.Bus

open ClockBoard.Core ClockBoard.Link ClockBoard.Simulation ClockBoard.Routine

variable {bus : Bus} {one two : Circuit} {α β : Type}
variable {Before Bad : Circuit → Circuit → Prop}

/-! ## Circuits that are alike -/

/-- Whether circuits under a bus agree, and a transaction with them works. -/
structure Alike (bus : Bus) (one two : Circuit) : Prop extends one.Agree two where
  under : one.node = bus.node
  usable : bus.Usable one
  quiet : one.status.transferInProgress = false
  quiet' : two.status.transferInProgress = false

structure AlikeOn (bus : Bus) (one two : Circuit) : Prop extends bus.Alike one two where
  on : one.enabled = true

theorem Alike.under' (alike : bus.Alike one two) : two.node = bus.node :=
  alike.node.symm.trans alike.under

theorem AlikeOn.of_steady {later other : Circuit} (alike : bus.AlikeOn one two)
    (agree : later.Agree other) (steady : one.Steady later) (steady' : two.Steady other) :
    bus.AlikeOn later other where
  toAgree := agree
  under := steady.node.trans alike.under
  usable := .inl (steady.enabled.trans alike.on)
  quiet := steady.progress.trans alike.quiet
  quiet' := steady'.progress.trans alike.quiet'
  on := steady.enabled.trans alike.on

/-- What status reads make of two circuits that stall equally often. -/
def Stalled (one two later other : Circuit) : Prop :=
  ∃ stalls, later = { one with stalls } ∧ other = { two with stalls }

theorem Stalled.refl (agree : one.Agree two) : Stalled one two one two := by
  refine ⟨one.stalls, rfl, ?_⟩
  rw [agree.stalls]

theorem Stalled.agree {later other : Circuit} (stalled : Stalled one two later other)
    (agree : one.Agree two) : later.Agree other := by
  rcases stalled with ⟨stalls, rfl, rfl⟩
  exact ⟨agree.node, agree.control, agree.prescale, agree.slaves, rfl, agree.losses⟩

theorem Stalled.alikeOn {later other : Circuit} (stalled : Stalled one two later other)
    (alike : bus.AlikeOn one two) : bus.AlikeOn later other := by
  have agree := stalled.agree alike.toAgree
  rcases stalled with ⟨stalls, rfl, rfl⟩
  exact alike.of_steady agree ⟨rfl, rfl, rfl, rfl⟩ ⟨rfl, rfl, rfl, rfl⟩

theorem Stalled.transfer {later other : Circuit} (stalled : Stalled one two later other)
    (same : one.transfer = two.transfer) : later.transfer = other.transfer := by
  rcases stalled with ⟨stalls, rfl, rfl⟩
  exact same

/-! ## Accesses -/

section Accesses

variable (under : ∀ one two, Before one two → one.node = bus.node ∧ two.node = bus.node)
include under

theorem coupled_exchange {operations : List Operation}
    {Good : List UInt32 → List UInt32 → Circuit → Circuit → Prop} (knows : bus.Knows operations)
    (good : ∀ one two, Before one two →
      Good (Circuit.perform operations one).1 (Circuit.perform operations two).1
        (Circuit.perform operations one).2 (Circuit.perform operations two).2) :
    Coupled Circuit.serve Before (exchange operations).run (exchange operations).run
      (EndSame Good Bad) := by
  intro one two before
  rw [exchange_run (under one two before).1 knows, exchange_run (under one two before).2 knows]
  exact good one two before

theorem coupled_readRegister {register : Register}
    {Good : UInt32 → UInt32 → Circuit → Circuit → Prop}
    (good : ∀ one two, Before one two →
      Good (one.read register).1 (two.read register).1 (one.read register).2
        (two.read register).2) :
    Coupled Circuit.serve Before (bus.readRegister register).run (bus.readRegister register).run
      (EndSame Good Bad) := by
  intro one two before
  rw [readRegister_run (under one two before).1, readRegister_run (under one two before).2]
  exact good one two before

theorem coupled_writeRegister {register : Register} {value : UInt32}
    {Good : Unit → Unit → Circuit → Circuit → Prop}
    (good : ∀ one two, Before one two →
      Good () () (one.write value register) (two.write value register)) :
    Coupled Circuit.serve Before (bus.writeRegister register value).run
      (bus.writeRegister register value).run (EndSame Good Bad) := by
  intro one two before
  rw [writeRegister_run (under one two before).1, writeRegister_run (under one two before).2]
  exact good one two before

end Accesses

/-! ## Waits -/

/-- Whether a wait for an end of a transfer judges two statuses alike. -/
structure SameVerdict (needAck needIdle : Bool) (status other : Status) : Prop where
  lost : status.arbitrationLost = other.arbitrationLost
  progress : status.transferInProgress = other.transferInProgress
  ends : status.arbitrationLost = false →
    outcome needAck needIdle status = outcome needAck needIdle other

theorem readStatus_stalled {needAck needIdle : Bool} {later other : Circuit}
    (verdict : SameVerdict needAck needIdle one.status two.status)
    (stalled : Stalled one two later other) :
    ((Status.layout.ofWord later.readStatus.1).arbitrationLost = one.status.arbitrationLost ∧
      SameVerdict needAck needIdle (Status.layout.ofWord later.readStatus.1)
        (Status.layout.ofWord other.readStatus.1)) ∧
    Stalled one two later.readStatus.2 other.readStatus.2 := by
  rcases stalled with ⟨stalls, rfl, rfl⟩
  simp only [Circuit.readStatus]
  split
  · rw [status_ofWord_toWord, status_ofWord_toWord]
    exact ⟨⟨rfl, verdict.lost, rfl, verdict.ends⟩, stalls - 1, rfl, rfl⟩
  · rw [status_ofWord_toWord, status_ofWord_toWord]
    exact ⟨⟨rfl, verdict⟩, stalls, rfl, rfl⟩

theorem coupled_poll {needAck needIdle : Bool} (attempt left : Nat)
    (alike : bus.AlikeOn one two)
    (verdict : SameVerdict needAck needIdle one.status two.status) :
    Coupled Circuit.serve (Stalled one two) (bus.poll needAck needIdle attempt left).run
      (bus.poll needAck needIdle attempt left).run
      (EndSame (fun _ _ later other => one.status.arbitrationLost = false ∧
        Stalled one two later other) (Stalled one two)) := by
  -- A stall is counted down on both, so the waits stay in step until the status shows.
  induction left generalizing attempt with
  | zero => exact coupled_done fun _ _ stalled => ⟨rfl, stalled⟩
  | succ left induction =>
      have under : ∀ later other, Stalled one two later other →
          later.node = bus.node ∧ other.node = bus.node := by
        intro later other stalled
        have still := stalled.alikeOn alike
        exact ⟨still.under, still.under'⟩
      have read : Coupled Circuit.serve (Stalled one two) (bus.readRegister .command).run
          (bus.readRegister .command).run
          (EndSame (fun word word' later other =>
            ((Status.layout.ofWord word).arbitrationLost = one.status.arbitrationLost ∧
              SameVerdict needAck needIdle (Status.layout.ofWord word)
                (Status.layout.ofWord word')) ∧
            Stalled one two later other) (Stalled one two)) :=
        coupled_readRegister under fun _ _ stalled => readStatus_stalled verdict stalled
      refine coupled_bind_run read ?_
      intro word word'
      apply coupled_of_fact
      rintro ⟨shown, same⟩
      intro later other stalled
      rw [remark_run_bind, remark_run_bind, ← same.lost, ← same.progress, shown]
      split
      · exact ⟨rfl, stalled⟩
      · rename_i kept
        rw [Bool.not_eq_true] at kept
        split
        · exact induction (attempt + 1) later other stalled
        · rw [same.ends (shown.trans kept)]
          cases outcome needAck needIdle (Status.layout.ofWord word') with
          | error error => exact ⟨rfl, stalled⟩
          | ok _ => exact ⟨kept, stalled⟩

/-! ## Bytes -/

structure AlikeOpen (bus : Bus) (one two : Circuit) : Prop extends bus.AlikeOn one two where
  transfer : one.transfer = two.transfer

/-- Whether a command has left circuits alike. -/
def Finishing (bus : Bus) (stopped : Bool) (one two : Circuit) : Prop :=
  bus.AlikeOn one two ∧ one.Shown stopped two

theorem AlikeOn.finishing {command : Command} (alike : bus.AlikeOn one two)
    (shown : (one.execute command).Shown command.stop (two.execute command)) :
    bus.Finishing command.stop (one.execute command) (two.execute command) :=
  ⟨alike.of_steady shown.toAgree (Circuit.execute_steady _ _) (Circuit.execute_steady _ _), shown⟩

theorem AlikeOn.send {command : Command} (alike : bus.AlikeOn one two) (byte : UInt8)
    (joined : command.start = false → one.transfer = two.transfer) :
    bus.Finishing command.stop
      (({ one with tx := byte } : Circuit).execute { command with write := true })
      (({ two with tx := byte } : Circuit).execute { command with write := true }) := by
  have asks : ({ command with write := true } : Command) ≠ {} := fun blank =>
    Bool.noConfusion (congrArg Command.write blank)
  have agree : { one with tx := byte }.Agree { two with tx := byte } :=
    ⟨alike.node, alike.control, alike.prescale, alike.slaves, alike.stalls, alike.losses⟩
  have holding : bus.AlikeOn { one with tx := byte } { two with tx := byte } :=
    alike.of_steady agree ⟨rfl, rfl, rfl, rfl⟩ ⟨rfl, rfl, rfl, rfl⟩
  refine holding.finishing (Circuit.execute_shown asks agree alike.on ?_)
  cases start : command.start with
  | true =>
      simp only [Circuit.move, if_true]
      exact Circuit.select_moved (agree.winning _) rfl rfl rfl
  | false =>
      simp only [Circuit.move, if_true, Bool.false_eq_true, if_false]
      exact Circuit.send_moved ⟨agree.winning _, joined start⟩ rfl rfl rfl

def Receiving (bus : Bus) (stopped : Bool) (one two : Circuit) : Prop :=
  bus.Finishing stopped one two ∧ (one.status.arbitrationLost = false → one.rx = two.rx)

theorem AlikeOpen.receive {command : Command} (alike : bus.AlikeOpen one two)
    (oneWay : command.write = false) :
    bus.Receiving command.stop (one.execute { command with read := true })
      (two.execute { command with read := true }) := by
  have asks : ({ command with read := true } : Command) ≠ {} := fun blank =>
    Bool.noConfusion (congrArg Command.read blank)
  have moved := Circuit.receive_moved command.ack
    ⟨alike.toAgree.winning { command with read := true }, alike.transfer⟩ rfl rfl
  have move : ∀ circuit : Circuit, circuit.move { command with read := true } =
      circuit.receive command.ack := by
    intro circuit
    simp [Circuit.move, oneWay]
  rw [← move, ← move] at moved
  refine ⟨alike.finishing (Circuit.execute_shown asks alike.toAgree alike.on moved.1), ?_⟩
  exact Circuit.execute_rx asks alike.toAgree alike.on moved.2

theorem coupled_wait {needAck needIdle stopped : Bool} (asked : needIdle = true → stopped = true)
    (finishing : ∀ one two, Before one two → bus.Finishing stopped one two) :
    Coupled Circuit.serve Before (bus.waitUntilFinished needAck needIdle).run
      (bus.waitUntilFinished needAck needIdle).run
      (EndSame
        (fun _ _ later other => bus.AlikeOpen later other ∧ ∃ one two, Before one two ∧
          one.status.arbitrationLost = false ∧ Stalled one two later other)
        bus.AlikeOn) := by
  intro one two before
  rcases finishing one two before with ⟨alike, shown⟩
  have verdict : SameVerdict needAck needIdle one.status two.status := by
    refine ⟨shown.lost, alike.quiet.trans alike.quiet'.symm, ?_⟩
    intro kept
    have idle : (needIdle && one.status.busy) = (needIdle && two.status.busy) := by
      cases needIdle with
      | false => rfl
      | true => rw [shown.busy kept (asked rfl)]
    rw [outcome, outcome, Status.ackReceived, Status.ackReceived, shown.rxNack kept, idle]
  have waited := coupled_poll 1 bus.config.pollAttempts alike verdict one two
    (Stalled.refl alike.toAgree)
  refine waited.mono ?_ fun stalled => stalled.alikeOn alike
  rintro _ _ ⟨kept, stalled⟩
  have transfer := stalled.transfer (shown.transfer kept)
  exact ⟨⟨stalled.alikeOn alike, transfer⟩, one, two, before, kept, stalled⟩

theorem coupled_sendByte {command : Command} (byte : UInt8) (oneWay : command.read = false) :
    Coupled Circuit.serve
      (fun one two => bus.AlikeOn one two ∧ (command.start = false → one.transfer = two.transfer))
      (bus.sendByte command byte).run (bus.sendByte command byte).run
      (EndSame (fun _ _ => bus.AlikeOpen) bus.AlikeOn) := by
  have knows : bus.Knows [.write (bus.path .data) byte.toUInt32, .write (bus.path .command)
      (Command.layout.toWord { command with write := true })] := (Knows.nil.write _ _).write _ _
  rw [sendByte, wordOf_write oneWay]
  apply coupled_liftOk_bind_run
  refine coupled_bind_run
    (?_ : Coupled _ _ _ _ (EndSame (fun _ _ => bus.Finishing command.stop) _)) fun _ _ => ?_
  · apply coupled_exchange (fun _ _ before => ⟨before.1.under, before.1.under'⟩) knows
    rintro one two ⟨alike, joined⟩
    rw [perform_send alike.under, perform_send alike.under']
    exact alike.send byte joined
  · exact (coupled_wait id fun _ _ finishing => finishing).mono_ends
      (fun _ _ _ _ waited => waited.1) fun _ _ => id

theorem coupled_readData {stopped : Bool} :
    Coupled Circuit.serve
      (fun later last => bus.AlikeOpen later last ∧ ∃ one two, bus.Receiving stopped one two ∧
        one.status.arbitrationLost = false ∧ Stalled one two later last)
      (bus.readRegister .data).run (bus.readRegister .data).run
      (EndSame (fun word word' one two => word = word' ∧ bus.AlikeOpen one two) bus.AlikeOn) := by
  apply coupled_readRegister fun one two before => ⟨before.1.under, before.1.under'⟩
  rintro _ _ ⟨alike, one, two, ⟨_, rx⟩, kept, stalls, rfl, rfl⟩
  exact ⟨congrArg UInt8.toUInt32 (rx kept), alike⟩

theorem coupled_receiveByte {command : Command} (oneWay : command.write = false) :
    Coupled Circuit.serve bus.AlikeOpen (bus.receiveByte command).run (bus.receiveByte command).run
      (EndSame (fun byte byte' one two => byte = byte' ∧ bus.AlikeOpen one two) bus.AlikeOn) := by
  have asked : Coupled Circuit.serve bus.AlikeOpen
      (bus.writeRegister .command (Command.layout.toWord { command with read := true })).run
      (bus.writeRegister .command (Command.layout.toWord { command with read := true })).run
      (EndSame (fun _ _ => bus.Receiving command.stop) bus.AlikeOn) := by
    apply coupled_writeRegister fun one two alike => ⟨alike.under, alike.under'⟩
    intro one two alike
    simp only [Circuit.write, command_ofWord_toWord]
    exact alike.receive oneWay
  rw [receiveByte, wordOf_read oneWay]
  apply coupled_liftOk_bind_run
  refine coupled_bind_run asked fun _ _ => ?_
  refine coupled_bind_run (coupled_wait Bool.noConfusion fun _ _ receiving => receiving.1)
    fun _ _ => ?_
  refine coupled_bind_run coupled_readData fun word word' => ?_
  apply coupled_of_fact
  rintro rfl
  exact coupled_done fun _ _ alike => ⟨rfl, alike⟩

/-! ## Transactions -/

theorem coupled_sendBytes (stop : Bool) (bytes : List UInt8) :
    Coupled Circuit.serve bus.AlikeOpen (bus.sendBytes stop bytes).run
      (bus.sendBytes stop bytes).run (EndSame (fun _ _ => bus.AlikeOpen) bus.AlikeOn) := by
  induction bytes with
  | nil => exact coupled_done fun _ _ alike => alike
  | cons byte rest induction =>
      refine coupled_bind_run ((coupled_sendByte byte rfl).mono ?_ fun _ _ _ _ => id)
        fun _ _ => induction
      intro one two alike
      exact ⟨alike.toAlikeOn, fun _ => alike.transfer⟩

theorem coupled_receiveBytes (received : List UInt8) (count : Nat) :
    Coupled Circuit.serve bus.AlikeOpen (bus.receiveBytes received count).run
      (bus.receiveBytes received count).run
      (EndSame (fun bytes bytes' one two => bytes = bytes' ∧ bus.AlikeOpen one two)
        bus.AlikeOn) := by
  induction count generalizing received with
  | zero => exact coupled_done fun _ _ alike => ⟨rfl, alike⟩
  | succ count induction =>
      refine coupled_bind_run (coupled_receiveByte rfl) fun byte byte' => ?_
      apply coupled_of_fact
      rintro rfl
      exact induction (byte :: received)

theorem coupled_reset :
    Coupled Circuit.serve bus.Alike bus.reset.run bus.reset.run
      (EndSame (fun _ _ => bus.AlikeOn) Bad) := by
  intro one two alike
  -- The prescale is the same, so both resets are short, or neither is.
  rw [reset_run alike.under, reset_run alike.under', ← alike.prescale]
  rcases alike with
    ⟨⟨node, control, prescale, slaves, stalls, losses⟩, under, usable, quiet, quiet'⟩
  split
  · rename_i right
    have on : one.enabled = true := usable.resolve_right fun wrong => wrong right
    exact ⟨⟨⟨node, control, prescale, slaves, stalls, losses⟩, under, .inl on, quiet, quiet'⟩, on⟩
  · rw [program_programming, program_programming]
    exact ⟨⟨⟨node, rfl, rfl, slaves, stalls, losses⟩, under, .inl rfl, quiet, quiet'⟩, rfl⟩

/-- Whether a routine ends in the same way on circuits that are alike. -/
def Forgets (bus : Bus) (routine : Routine Link.interface α) : Prop :=
  Coupled Circuit.serve bus.Alike routine routine fun result other one two =>
    result = other ∧ bus.Alike one two

theorem forgets_done (value : α) : bus.Forgets (.done value) :=
  keeps_done value

theorem forgets_note (event : Event) : bus.Forgets (Link.note event) :=
  fun _ _ alike => ⟨rfl, alike⟩

theorem forgets_bind {routine : Routine Link.interface α} {next : α → Routine Link.interface β}
    (first : bus.Forgets routine) (rest : ∀ value, bus.Forgets (next value)) :
    bus.Forgets (routine.bind next) :=
  keeps_bind first rest

theorem forgets_bind_run {action : Action α} {next : α → Action β}
    (first : bus.Forgets action.run) (rest : ∀ value, bus.Forgets (next value).run) :
    bus.Forgets (action >>= next).run :=
  keeps_bind_run first rest

theorem forgets_transaction {address : UInt8} {more : Action α}
    (rest : Coupled Circuit.serve bus.AlikeOn more.run more.run
      (EndSame (fun value other one two => value = other ∧ bus.AlikeOn one two) bus.AlikeOn)) :
    bus.Forgets (do checkAddress address; let _ ← bus.reset; more : Action α).run := by
  have ends : Coupled Circuit.serve bus.Alike
      (do checkAddress address; let _ ← bus.reset; more : Action α).run
      (do checkAddress address; let _ ← bus.reset; more : Action α).run
      (EndSame (fun value other one two => value = other ∧ bus.Alike one two) bus.Alike) := by
    have checked : Coupled Circuit.serve bus.Alike (liftM (checkAddress address) : Action Unit).run
        (liftM (checkAddress address) : Action Unit).run
        (EndSame (fun _ _ => bus.Alike) bus.Alike) := by
      intro one two alike
      cases checkAddress address with
      | error error => exact ⟨rfl, alike⟩
      | ok _ => exact alike
    refine coupled_bind_run checked fun _ _ => coupled_bind_run coupled_reset fun _ _ => ?_
    exact rest.mono_ends (fun _ _ _ _ good => ⟨good.1, good.2.toAlike⟩) fun _ _ => AlikeOn.toAlike
  exact ends.mono (fun _ _ alike => alike) fun _ _ _ _ same => same.eq

theorem coupled_sendAddress (stop : Bool) (byte : UInt8) :
    Coupled Circuit.serve bus.AlikeOn (bus.sendByte { start := true, stop } byte).run
      (bus.sendByte { start := true, stop } byte).run
      (EndSame (fun _ _ => bus.AlikeOpen) bus.AlikeOn) :=
  (coupled_sendByte byte rfl).mono (fun _ _ alike => ⟨alike, nofun⟩) fun _ _ _ _ => id

theorem coupled_remark_bind {After : Except Error α → Except Error β → Circuit → Circuit → Prop}
    {level : Event.Level} {message : String} {fields : List (String × Event.Value)}
    {next : Unit → Action α} {later : Unit → Action β}
    (rest : Coupled Circuit.serve Before (next ()).run (later ()).run After) :
    Coupled Circuit.serve Before
      ((liftM (bus.remark level message fields) : Action Unit) >>= next).run
      ((liftM (bus.remark level message fields) : Action Unit) >>= later).run After :=
  rest

theorem forgets_writeBlock (address : UInt8) (bytes : List UInt8) (stop : Bool) :
    bus.Forgets (bus.writeBlock address bytes stop).run := by
  apply forgets_transaction
  apply coupled_remark_bind
  refine coupled_bind_run (coupled_sendAddress _ _) fun _ _ => ?_
  exact (coupled_sendBytes stop bytes).mono_ends (fun _ _ _ _ alike => ⟨rfl, alike.toAlikeOn⟩)
    fun _ _ => id

theorem forgets_readBlock (address : UInt8) (count : Nat) :
    bus.Forgets (bus.readBlock address count).run := by
  apply forgets_transaction
  apply coupled_remark_bind
  refine coupled_bind_run (coupled_sendAddress _ _) fun _ _ => ?_
  exact (coupled_receiveBytes [] count).mono_ends
    (fun _ _ _ _ good => ⟨good.1, good.2.toAlikeOn⟩) fun _ _ => id

theorem forgets_readArray (address register : UInt8) (count : Nat) :
    bus.Forgets (bus.readArray address register count).run :=
  forgets_bind_run (forgets_writeBlock _ _ _) fun _ => forgets_readBlock _ _

theorem forgets_tryAddress (address : UInt8) : bus.Forgets (bus.tryAddress address).run := by
  apply forgets_transaction
  exact (coupled_sendAddress _ _).mono_ends (fun _ _ _ _ alike => ⟨rfl, alike.toAlikeOn⟩)
    fun _ _ => id

theorem forgets_ping (address : UInt8) : bus.Forgets (bus.ping address) := by
  apply forgets_bind (forgets_tryAddress address)
  intro answer
  cases answer with
  | ok _ => exact forgets_done _
  | error error => exact forgets_bind (forgets_note _) fun _ => forgets_done _

theorem forgets_pingAll (addresses : List UInt8) : bus.Forgets (bus.pingAll addresses) := by
  induction addresses with
  | nil => exact forgets_done _
  | cons address rest induction =>
      refine forgets_bind (forgets_ping address) fun present => ?_
      exact forgets_bind induction fun found => forgets_done _

theorem forgets_scan : bus.Forgets bus.scan :=
  forgets_bind (forgets_pingAll _) fun _ => forgets_bind (forgets_note _) fun _ => forgets_done _

/-! ## Boards -/

def SameOn (one two : Board Circuit) (routine : Routine Link.interface α) : Prop :=
  (one.run routine).1 = (two.run routine).1 ∧
    (one.run routine).2.transport.Agree (two.run routine).2.transport

theorem Forgets.sameOn {routine : Routine Link.interface α} (forgets : bus.Forgets routine)
    {one two : Board Circuit} (free : one.access = .free) (free' : two.access = .free)
    (alike : bus.Alike one.transport two.transport) : SameOn one two routine := by
  rcases Circuit.board_run routine one free with ⟨result, transport⟩
  rcases Circuit.board_run routine two free' with ⟨result', transport'⟩
  rw [SameOn, result, result', transport, transport']
  rcases forgets one.transport two.transport alike with ⟨same, still⟩
  exact ⟨same, still.toAgree⟩

/-- Transactions on circuits that agree end in the same way and leave circuits that agree, whatever
earlier transactions have left behind. -/
theorem transactions_forget (bus : Bus) (one two : Board Circuit) (free : one.access = .free)
    (free' : two.access = .free) (built : one.transport.Built) (built' : two.transport.Built)
    (node : one.transport.node = bus.node) (agree : one.transport.Agree two.transport)
    (usable : bus.Usable one.transport) :
    (∀ address bytes stop, SameOn one two (bus.writeBlock address bytes stop).run) ∧
    (∀ address count, SameOn one two (bus.readBlock address count).run) ∧
    (∀ address register count, SameOn one two (bus.readArray address register count).run) ∧
    (∀ address register bytes stop,
      SameOn one two (bus.writeArray address register bytes stop).run) ∧
    (∀ address, SameOn one two (bus.ping address)) ∧
    SameOn one two bus.scan := by
  have alike : bus.Alike one.transport two.transport :=
    ⟨agree, node, usable, built.progress, built'.progress⟩
  refine ⟨?_, ?_, ?_, ?_, ?_, ?_⟩
  · intro address bytes stop
    exact (forgets_writeBlock address bytes stop).sameOn free free' alike
  · intro address count
    exact (forgets_readBlock address count).sameOn free free' alike
  · intro address register count
    exact (forgets_readArray address register count).sameOn free free' alike
  · intro address register bytes stop
    exact (forgets_writeBlock address (register :: bytes) stop).sameOn free free' alike
  · intro address
    exact (forgets_ping address).sameOn free free' alike
  · exact forgets_scan.sameOn free free' alike

theorem transactions_forget_transfer :
    let bus : Bus := { node := "i2c", config := {}, slaves := .empty }
    let circuit := (Circuit.ofNode "i2c").attach 0x20 .flat
    let one := Board.ofTransport (circuit.carry ⟨0, [.write "i2c.ctrl" 0x80]⟩).2
    let two := Board.ofTransport
      (circuit.carry ⟨0, [.write "i2c.ctrl" 0x80, .write "i2c.data" 0x41,
        .write "i2c.cmd_stat" 0x90]⟩).2
    two.transport.transfer = some ⟨0x20, true, false⟩ ∧ one.transport.transfer = none ∧
      SameOn one two (bus.writeBlock 0x20 [7] true).run ∧ SameOn one two bus.scan := by
  intro bus circuit one two
  have start : circuit.Built := .attach (.ofNode "i2c") 0x20 .flat (.inr rfl)
  have built : one.transport.Built := .carry start _
  have built' : two.transport.Built := .carry start _
  have agree : one.transport.Agree two.transport :=
    ⟨rfl, rfl, rfl, fun _ => rfl, rfl, rfl⟩
  rcases transactions_forget bus one two rfl rfl built built' rfl agree (.inl rfl) with
    ⟨written, _, _, _, _, scanned⟩
  exact ⟨by decide +kernel +zetaReduce, by decide +kernel +zetaReduce, written 0x20 [7] true,
    scanned⟩

end ClockBoard.Bus
