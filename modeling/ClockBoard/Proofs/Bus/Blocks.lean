import Mathlib.Data.List.ModifyLast
import ClockBoard.Proofs.Bus.Discipline
import ClockBoard.Proofs.Bus.Polls

/-!
A block transfer has a plan: which commands it gives, in which order, and which byte goes with each.
Behind a transport of which nothing is known, what it writes after its reset is the beginning of
that plan, and all of it if the transfer goes well.

The main statement adds where the bytes of a block come from that was read: each is what the data
register held when the command for it had been waited for.
-/

namespace ClockBoard.Bus

open ClockBoard.Core ClockBoard.Link

/-! ## Plans -/

def sending (bus : Bus) (byte : UInt8) (word : UInt32) : List Operation :=
  [.write (bus.path .data) byte.toUInt32, .write (bus.path .command) word]

def asking (bus : Bus) (word : UInt32) : List Operation :=
  [.write (bus.path .command) word]

/-- A list of words the last of which also stops the bus, if it is to be stopped. -/
def stopping (stop : Bool) (words : List UInt32) : List UInt32 :=
  if stop then words.modifyLast (· ||| 0x40) else words

/-- The words that write a block: one that starts the bus and writes the address, and one that
writes each byte. -/
def writeWords (count : Nat) (stop : Bool) : List UInt32 :=
  stopping stop (0x90 :: List.replicate count 0x10)

/-- The words that read the bytes of a block. The last of them leaves its byte unacknowledged and
stops the bus. -/
def readWords (count : Nat) : List UInt32 :=
  (List.replicate count 0x20).modifyLast (· ||| 0x48)

def writePlan (bus : Bus) (address : UInt8) (bytes : List UInt8) (stop : Bool) :
    List (List Operation) :=
  List.zipWith bus.sending (address <<< 1 :: bytes) (writeWords bytes.length stop)

/-- The word that opens a read. A read of no bytes stops the bus with the address. -/
def readOpening (count : Nat) : UInt32 :=
  if count = 0 then 0xD0 else 0x90

def readPlan (bus : Bus) (address : UInt8) (count : Nat) : List (List Operation) :=
  bus.sending (address <<< 1 ||| 1) (readOpening count) ::
    (readWords count).map bus.asking

example : writeWords 2 true = [0x90, 0x10, 0x50] := by decide
example : writeWords 0 true = [0xD0] := by decide
example : readWords 3 = [0x20, 0x20, 0x68] := by decide

/-! ## Records -/

def written (entries : List Entry) : List (List Operation) :=
  (entries.map Entry.operations).filter fun operations => !operations.all Operation.isRead

@[simp] theorem written_append (first rest : List Entry) :
    written (first ++ rest) = written first ++ written rest := by
  simp [written]

/-- Whether what was recorded is a wait for the end of a transfer: status reads, the last of which
shows that no transfer is in progress and that arbitration was not lost. -/
def Awaited (bus : Bus) (entries : List Entry) : Prop :=
  ∃ earlier word more,
    entries = earlier ++ [⟨[.read (bus.path .command)], word :: more⟩] ∧
    (∀ entry ∈ earlier, entry.operations = [.read (bus.path .command)]) ∧
    word.toNat.testBit 1 = false ∧ word.toNat.testBit 5 = false

/-- Whether what was recorded is a byte that was sent with a command: both in one batch, and the
wait for the end of it. -/
def Sent (bus : Bus) (byte : UInt8) (word : UInt32) (entries : List Entry) : Prop :=
  ∃ got wait, entries = ⟨bus.sending byte word, got⟩ :: wait ∧ bus.Awaited wait

/-- Whether what was recorded is a byte that was received with a command: the command, the wait for
the end of it, and a read of the data register, the low bits of which are the byte. -/
def Got (bus : Bus) (word : UInt32) (entries : List Entry) (byte : UInt8) : Prop :=
  ∃ got wait value more,
    entries = ⟨bus.asking word, got⟩ :: (wait ++ [⟨[.read (bus.path .data)], value :: more⟩]) ∧
    bus.Awaited wait ∧ byte = value.toUInt8

/-- The receipt of bytes, one after the other, by a command for each. -/
inductive Received (bus : Bus) : List UInt32 → List Entry → List UInt8 → Prop
  | none : Received bus [] [] []
  | byte {word : UInt32} {words : List UInt32} {first rest : List Entry} {byte : UInt8}
      {bytes : List UInt8} (got : bus.Got word first byte)
      (others : Received bus words rest bytes) :
      Received bus (word :: words) (first ++ rest) (byte :: bytes)

theorem Received.length {bus : Bus} {words : List UInt32} {entries : List Entry}
    {bytes : List UInt8} (received : Received bus words entries bytes) :
    bytes.length = words.length := by
  induction received with
  | none => rfl
  | byte got others induction => exact congrArg (· + 1) induction

/-! ## Actions with a plan -/

variable {bus : Bus} {α β : Type}

/-- Whether what an action writes is the beginning of a plan, and all of it if the action goes well;
and then the record of it says something about the result. -/
def Realizes (action : Action α) (plan : List (List Operation))
    (tells : List Entry → α → Prop) : Prop :=
  ∀ before result after, Goes action.run before result after →
    ∃ passed, after = before ++ passed ∧ written passed <+: plan ∧
      ∀ value, result = .ok value → written passed = plan ∧ tells passed value

theorem Realizes.mono {action : Action α} {plan : List (List Operation)}
    {tells others : List Entry → α → Prop} (realizes : Realizes action plan tells)
    (more : ∀ passed value, tells passed value → others passed value) :
    Realizes action plan others := by
  intro before result after goes
  obtain ⟨passed, same, begun, ends⟩ := realizes before result after goes
  refine ⟨passed, same, begun, fun value ok => ?_⟩
  obtain ⟨all, told⟩ := ends value ok
  exact ⟨all, more passed value told⟩

theorem realizes_bind {action : Action α} {next : α → Action β}
    {first rest : List (List Operation)} {tells : List Entry → α → Prop}
    {later : α → List Entry → β → Prop} (one : Realizes action first tells)
    (two : ∀ value, Realizes (next value) rest (later value)) :
    Realizes (action >>= next) (first ++ rest) fun passed result =>
      ∃ value begun ended, passed = begun ++ ended ∧ tells begun value ∧
        later value ended result := by
  intro before result after goes
  rcases (Routine.possible_bind_run _ _ _).mp goes with
    ⟨error, rfl, failed⟩ | ⟨value, between, _, _, reached, continued, _⟩
  · -- What was begun of the first plan is the beginning of both.
    obtain ⟨passed, same, begun, _⟩ := one before _ after failed
    exact ⟨passed, same, begun.trans (List.prefix_append first rest), nofun⟩
  · obtain ⟨begun, rfl, _, ends⟩ := one before _ between reached
    obtain ⟨all, told⟩ := ends value rfl
    obtain ⟨ended, rfl, part, finishes⟩ := two value _ result after continued
    refine ⟨begun ++ ended, List.append_assoc _ _ _, ?_, fun final ok => ?_⟩
    · rw [written_append, all]
      exact (List.prefix_append_right_inj first).mpr part
    · obtain ⟨whole, said⟩ := finishes final ok
      rw [written_append, all, whole]
      exact ⟨rfl, value, begun, ended, rfl, told, said⟩

theorem realizes_lift (settled : Except Error α) :
    Realizes (liftM settled) [] fun passed value => passed = [] ∧ settled = .ok value := by
  rintro before _ after ⟨rfl, rfl, _⟩
  exact ⟨[], (List.append_nil _).symm, List.prefix_refl _, fun value ok => ⟨rfl, rfl, ok⟩⟩

theorem realizes_throw (error : Error) (plan : List (List Operation))
    (tells : List Entry → α → Prop) : Realizes (throw error) plan tells := by
  rintro before _ after ⟨rfl, rfl, _⟩
  exact ⟨[], (List.append_nil _).symm, List.nil_prefix, nofun⟩

theorem realizes_note (event : Event) :
    Realizes (liftM (Link.note event) : Action Unit) [] fun passed _ => passed = [] := by
  intro before result after goes
  rcases (Routine.possible_lift_run _ _).mp goes with ⟨_, noted, rfl⟩
  cases (Routine.possible_ask_done _ _).mp noted
  exact ⟨[], (List.append_nil _).symm, List.prefix_refl _, fun _ _ => ⟨rfl, rfl⟩⟩

theorem realizes_exchange (operations : List Operation) :
    Realizes (exchange operations) (written [⟨operations, []⟩]) fun passed values =>
      passed = [⟨operations, values⟩] := by
  intro before result after goes
  rcases goes_exchange goes with ⟨values, rfl, rfl⟩ | ⟨error, rfl, rfl | rfl⟩
  · refine ⟨_, rfl, List.prefix_refl _, fun value ok => ?_⟩
    cases ok
    exact ⟨rfl, rfl⟩
  · exact ⟨[], (List.append_nil _).symm, List.nil_prefix, nofun⟩
  · exact ⟨_, rfl, List.prefix_refl _, nofun⟩

/-! ## Waits -/

theorem realizes_readRegister (bus : Bus) (register : Register) :
    Realizes (bus.readRegister register) [] fun passed word =>
      ∃ more, passed = [⟨[.read (bus.path register)], word :: more⟩] := by
  apply (realizes_bind (realizes_exchange _) fun values => realizes_lift (resolve values 0)).mono
  rintro _ word ⟨values, _, _, rfl, rfl, rfl, resolved⟩
  cases values with
  | nil => cases resolved
  | cons value more =>
      cases resolved
      exact ⟨more, rfl⟩

theorem Awaited.read {values : List UInt32} {entries : List Entry} (awaited : bus.Awaited entries) :
    bus.Awaited (⟨[.read (bus.path .command)], values⟩ :: entries) := by
  obtain ⟨earlier, word, more, rfl, reads, quiet, kept⟩ := awaited
  exact ⟨_ :: earlier, word, more, rfl, List.forall_mem_cons.mpr ⟨rfl, reads⟩, quiet, kept⟩

theorem realizes_poll (bus : Bus) (needAck needIdle : Bool) (attempt left : Nat) :
    Realizes (bus.poll needAck needIdle attempt left) [] fun passed _ => bus.Awaited passed := by
  induction left generalizing attempt with
  | zero => exact realizes_throw _ _ _
  | succ left induction =>
      -- The read is the last of the wait if its word is conclusive, and else comes before the rest.
      have goesOn (word : UInt32) :
          Realizes
            (let status := Status.layout.ofWord word
             if status.arbitrationLost then throw .arbitrationLost
             else if status.transferInProgress then bus.poll needAck needIdle (attempt + 1) left
             else liftM (outcome needAck needIdle status))
            [] fun passed _ =>
              ∀ more, bus.Awaited (⟨[.read (bus.path .command)], word :: more⟩ :: passed) := by
        dsimp only
        cases kept : (Status.layout.ofWord word).arbitrationLost with
        | true => exact realizes_throw _ _ _
        | false =>
            cases quiet : (Status.layout.ofWord word).transferInProgress with
            | true => exact (induction _).mono fun _ _ awaited _ => awaited.read
            | false =>
                apply (realizes_lift (outcome needAck needIdle (Status.layout.ofWord word))).mono
                rintro _ _ ⟨rfl, _⟩ more
                rw [status_ofWord] at kept quiet
                exact ⟨[], word, more, rfl, nofun, quiet, kept⟩
      apply (realizes_bind (bus.realizes_readRegister .command) fun word =>
        realizes_bind (realizes_note _) fun _ => goesOn word).mono
      rintro _ _ ⟨word, _, _, rfl, ⟨more, rfl⟩, _, _, _, rfl, rfl, awaited⟩
      exact awaited more

/-! ## Bytes -/

theorem realizes_sendByte (bus : Bus) (byte : UInt8) {command : Command} {word : UInt32}
    (encodes : wordOf { command with write := true } = .ok word) :
    Realizes (bus.sendByte command byte) [bus.sending byte word] fun passed _ =>
      bus.Sent byte word passed := by
  unfold sendByte
  rw [encodes]
  apply (realizes_bind (realizes_exchange (bus.sending byte word)) fun _ =>
    bus.realizes_poll true command.stop 1 bus.config.pollAttempts).mono
  rintro _ _ ⟨got, _, wait, rfl, rfl, awaited⟩
  exact ⟨got, wait, rfl, awaited⟩

theorem realizes_receiveByte (bus : Bus) {command : Command} {word : UInt32}
    (encodes : wordOf { command with read := true } = .ok word) :
    Realizes (bus.receiveByte command) [bus.asking word] fun passed byte =>
      bus.Got word passed byte := by
  unfold receiveByte
  rw [encodes]
  have read : Realizes (do return (← bus.readRegister .data).toUInt8) [] fun passed byte =>
      ∃ value more, passed = [⟨[.read (bus.path .data)], value :: more⟩] ∧
        byte = value.toUInt8 := by
    apply (realizes_bind (bus.realizes_readRegister .data) fun value =>
      realizes_lift (.ok value.toUInt8)).mono
    rintro _ _ ⟨value, _, _, rfl, ⟨more, rfl⟩, rfl, same⟩
    cases same
    exact ⟨value, more, rfl, rfl⟩
  have issued : Realizes (bus.writeRegister .command word) [bus.asking word] fun passed _ =>
      ∃ got, passed = [⟨bus.asking word, got⟩] := by
    apply (realizes_bind (realizes_exchange (bus.asking word)) fun _ => realizes_lift (.ok ())).mono
    rintro _ _ ⟨got, _, _, rfl, rfl, rfl, _⟩
    exact ⟨got, rfl⟩
  apply (realizes_bind issued fun _ => realizes_bind
    (bus.realizes_poll false false 1 bus.config.pollAttempts) fun _ => read).mono
  rintro _ _ ⟨_, _, _, rfl, ⟨got, rfl⟩, _, wait, _, rfl, awaited, value, more, rfl, rfl⟩
  exact ⟨got, wait, value, more, rfl, awaited, rfl⟩

/-! ## Blocks -/

theorem modifyLast_cons_cons (change : α → α) (first second : α) (rest : List α) :
    (first :: second :: rest).modifyLast change =
      first :: (second :: rest).modifyLast change :=
  List.modifyLast_append_of_right_ne_nil change [first] (second :: rest) (List.cons_ne_nil _ _)

theorem zipWith_stopping (bus : Bus) (stop : Bool) (byte : UInt8) (rest : List UInt8)
    (word : UInt32) :
    List.zipWith bus.sending (byte :: rest)
        (stopping stop (word :: List.replicate rest.length 0x10)) =
      bus.sending byte (if stop && rest.isEmpty then word ||| 0x40 else word) ::
        List.zipWith bus.sending rest (stopping stop (List.replicate rest.length 0x10)) := by
  cases stop with
  | false => rfl
  | true =>
      cases rest with
      | nil => rfl
      | cons next others =>
          simp only [stopping, if_true, List.length_cons, List.replicate_succ,
            modifyLast_cons_cons, List.zipWith_cons_cons]
          rfl

theorem readWords_succ (count : Nat) :
    readWords (count + 1) = (if count == 0 then 0x68 else 0x20) :: readWords count := by
  cases count with
  | zero => rfl
  | succ count => exact modifyLast_cons_cons _ _ _ _

theorem length_readWords (count : Nat) : (readWords count).length = count := by
  induction count with
  | zero => rfl
  | succ count induction => rw [readWords_succ, List.length_cons, induction]

theorem wordOf_opening (stop : Bool) :
    wordOf { start := true, stop, write := true } = .ok (if stop then 0x90 ||| 0x40 else 0x90) := by
  cases stop <;> rfl

theorem wordOf_sending (stop : Bool) :
    wordOf { stop, write := true } = .ok (if stop then 0x10 ||| 0x40 else 0x10) := by
  cases stop <;> rfl

theorem wordOf_receiving (last : Bool) :
    wordOf { stop := last, ack := last, read := true } = .ok (if last then 0x68 else 0x20) := by
  cases last <;> rfl

theorem realizes_sendBytes (bus : Bus) (stop : Bool) (bytes : List UInt8) :
    Realizes (bus.sendBytes stop bytes)
      (List.zipWith bus.sending bytes (stopping stop (List.replicate bytes.length 0x10)))
      fun _ _ => True := by
  induction bytes with
  | nil => exact (realizes_lift (.ok ())).mono fun _ _ _ => trivial
  | cons byte rest induction =>
      rw [List.length_cons, List.replicate_succ, zipWith_stopping]
      apply (realizes_bind (bus.realizes_sendByte byte (wordOf_sending _)) fun _ => induction).mono
      exact fun _ _ _ => trivial

theorem realizes_receiveBytes (bus : Bus) (received : List UInt8) (left : Nat) :
    Realizes (bus.receiveBytes received left) ((readWords left).map bus.asking)
      fun passed bytes => ∃ fresh, bytes = received.reverse ++ fresh ∧
        bus.Received (readWords left) passed fresh := by
  induction left generalizing received with
  | zero =>
      apply (realizes_lift (.ok received.reverse)).mono
      rintro _ _ ⟨rfl, same⟩
      cases same
      exact ⟨[], (List.append_nil _).symm, .none⟩
  | succ left induction =>
      rw [readWords_succ, List.map_cons]
      apply (realizes_bind (bus.realizes_receiveByte (wordOf_receiving _)) fun byte =>
        induction (byte :: received)).mono
      rintro _ _ ⟨byte, _, _, rfl, got, fresh, rfl, others⟩
      have same : (byte :: received).reverse ++ fresh = received.reverse ++ byte :: fresh := by
        simp
      exact ⟨byte :: fresh, same, .byte got others⟩

theorem realizes_writeBytes (bus : Bus) (address : UInt8) (bytes : List UInt8) (stop : Bool) :
    Realizes
      (do
        bus.sendByte { start := true, stop := stop && bytes.isEmpty } (addressByte address false)
        bus.sendBytes stop bytes)
      (bus.writePlan address bytes stop) fun _ _ => True := by
  have isAddress : addressByte address false = address <<< 1 := UInt8.or_zero
  rw [writePlan, writeWords, zipWith_stopping, isAddress]
  apply (realizes_bind (bus.realizes_sendByte _ (wordOf_opening _)) fun _ =>
    bus.realizes_sendBytes stop bytes).mono
  exact fun _ _ _ => trivial

theorem realizes_readBytes (bus : Bus) (address : UInt8) (count : Nat) :
    Realizes
      (do
        bus.sendByte { start := true, stop := count == 0 } (addressByte address true)
        bus.receiveBytes [] count)
      (bus.readPlan address count) fun passed bytes =>
        ∃ opening rest, passed = opening ++ rest ∧
          bus.Sent (address <<< 1 ||| 1) (readOpening count) opening ∧
          bus.Received (readWords count) rest bytes := by
  have encodes : wordOf { start := true, stop := count == 0, write := true } =
      .ok (readOpening count) := by
    cases count <;> exact wordOf_opening _
  apply (realizes_bind (bus.realizes_sendByte _ encodes) fun _ =>
    bus.realizes_receiveBytes [] count).mono
  rintro _ _ ⟨_, opening, rest, rfl, sent, fresh, rfl, received⟩
  exact ⟨opening, rest, rfl, sent, received⟩

/-! ## Runs -/

section

variable {σ : Type} [Transport σ]

theorem Realizes.run {action : Action α} {plan : List (List Operation)}
    {tells : List Entry → α → Prop} (realizes : Realizes action plan tells)
    (board : Board (Recorded σ)) :
    let ended := board.run action.run
    ∃ passed, ended.2.transport.entries = board.transport.entries ++ passed ∧
      written passed <+: plan ∧
      ∀ value, ended.1 = .ok value → written passed = plan ∧ tells passed value := by
  intro ended
  obtain ⟨passed, recorded, goes⟩ := Recorded.run_answered action.run board
  obtain ⟨_, rfl, begun, ends⟩ := realizes [] ended.1 _ (goes [])
  exact ⟨_, recorded, begun, ends⟩

theorem run_transaction {board reached : Board (Recorded σ)} {address : UInt8} {path : ResetPath}
    (valid : address ≤ lastAddress) (started : board.run bus.reset.run = (.ok path, reached))
    (event : Event) (rest : Action α) :
    board.run (show Action α from do
        checkAddress address
        let _ ← bus.reset
        Link.note event
        rest).run =
      (reached.noting [event]).run rest.run := by
  have checked : checkAddress address = .ok () := if_pos valid
  rw [checked]
  apply (Routine.run_bind_ok started).trans
  exact note_bind_run_eq _ _ _

/-- Whatever the transport does, after a reset that went well a write of a block writes the
beginning of its plan, and a read of a block the beginning of its own. Either writes all of the plan
if it goes well. A read that goes well gives as many bytes as were asked for, each of them from the
data register after the end of the command for it. -/
theorem blocks_planned (bus : Bus) (board : Board (Recorded σ)) {address : UInt8}
    {path : ResetPath} (valid : address ≤ lastAddress)
    (started : (board.run bus.reset.run).1 = .ok path) (bytes : List UInt8) (stop : Bool)
    (count : Nat) :
    let reached := (board.run bus.reset.run).2
    (let ended := board.run (bus.writeBlock address bytes stop).run
     ∃ passed, ended.2.transport.entries = reached.transport.entries ++ passed ∧
      written passed <+: bus.writePlan address bytes stop ∧
      (ended.1 = .ok () → written passed = bus.writePlan address bytes stop)) ∧
    (let ended := board.run (bus.readBlock address count).run
     ∃ passed, ended.2.transport.entries = reached.transport.entries ++ passed ∧
      written passed <+: bus.readPlan address count ∧
      ∀ received, ended.1 = .ok received →
        written passed = bus.readPlan address count ∧ received.length = count ∧
        ∃ opening rest, passed = opening ++ rest ∧
          bus.Sent (address <<< 1 ||| 1) (readOpening count) opening ∧
          bus.Received (readWords count) rest received) := by
  intro reached
  have whole : board.run bus.reset.run = (.ok path, reached) := Prod.ext started rfl
  constructor
  · intro ended
    have ran : ended = _ := run_transaction valid whole _ _
    obtain ⟨passed, recorded, begun, ends⟩ :=
      (bus.realizes_writeBytes address bytes stop).run (reached.noting _)
    rw [ran]
    exact ⟨passed, recorded, begun, fun ok => (ends () ok).1⟩
  · intro ended
    have ran : ended = _ := run_transaction valid whole _ _
    obtain ⟨passed, recorded, begun, ends⟩ :=
      (bus.realizes_readBytes address count).run (reached.noting _)
    rw [ran]
    refine ⟨passed, recorded, begun, fun bytes ok => ?_⟩
    obtain ⟨all, opening, rest, same, sent, received⟩ := ends bytes ok
    exact ⟨all, received.length.trans (length_readWords count), opening, rest, same, sent, received⟩

theorem blocks_planned_two_bytes :
    let bus : Bus := { node := "i2c", config := {}, slaves := .empty }
    let circuit := (Simulation.Circuit.ofNode "i2c").attach 0x20 .flat
    let board := (Board.ofTransport circuit).recorded
    let reached := (board.run bus.reset.run).2
    let ended := board.run (bus.readBlock 0x20 2).run
    (board.run bus.reset.run).1 = .ok .full ∧ ended.1 = .ok [0, 0] ∧
      ∃ passed, ended.2.transport.entries = reached.transport.entries ++ passed ∧
        written passed = [bus.sending 0x41 0x90, bus.asking 0x20, bus.asking 0x68] := by
  intro bus circuit board reached ended
  have reset : (board.run bus.reset.run).1 = .ok .full := by decide +kernel +zetaReduce
  have received : ended.1 = .ok [0, 0] := by decide +kernel +zetaReduce
  have valid : 0x20 ≤ lastAddress := by decide
  -- What remains does not depend on which board it is, and must not be evaluated on it.
  clear_value board
  obtain ⟨_, passed, recorded, _, ends⟩ := blocks_planned bus board valid reset [] true 2
  exact ⟨reset, received, passed, recorded, (ends _ received).1⟩

end

end ClockBoard.Bus
