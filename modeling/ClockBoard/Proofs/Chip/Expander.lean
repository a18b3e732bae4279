import ClockBoard.Chip.Expander
import ClockBoard.Proofs.Handle.Errand

/-!
An expander whose users only set and read its pins. A call that is not refused is one hold of the
bus, so the change of one channel is never torn apart.

The main statement is about any calls one after another, on a bus where nothing is about to go
wrong. Each register of the two banks holds what the calls that write there make of its byte, in
order, and nothing else on the bus changes.
-/

namespace ClockBoard

theorem Handle.eq_of_address {handle other : Handle} (same : handle.address = other.address) :
    handle = other := by
  cases handle
  cases other
  cases same
  rfl

namespace Chip.Expander

open ClockBoard.Link ClockBoard.Simulation

/-! ## Pins -/

theorem withChannel_bit (levels : UInt8) (level : Bool) {channel : UInt8}
    (inside : channel < channels) {index : Nat} (bound : index < 8) :
    (withChannel levels channel level).toBitVec.getLsbD index =
      if index = channel.toNat then level else levels.toBitVec.getLsbD index := by
  have small : channel.toNat < 8 := inside
  cases level <;>
    simp [withChannel, bound, Nat.mod_eq_of_lt small] <;> grind

theorem register_inj {kind other : Kind} {bank otherBank : UInt8} (inside : bank < banks)
    (otherInside : otherBank < banks) (same : kind.base + bank = other.base + otherBank) :
    kind = other ∧ bank = otherBank := by
  have first : bank.toNat < 2 := inside
  have second : otherBank.toNat < 2 := otherInside
  have sums := congrArg UInt8.toNat same
  cases kind <;> cases other <;>
    simp only [Kind.base, UInt8.toNat_add, UInt8.reduceToNat, ← UInt8.toNat_inj] at sums ⊢ <;>
    simp <;> omega

/-! ## Calls -/

inductive Call
  | setInversion (bank mask : UInt8)
  | setInputs (bank inputs : UInt8)
  | setOutputs (bank levels : UInt8)
  | setOutput (bank channel : UInt8) (level : Bool)
  | readInputs (bank : UInt8)
  | readOutputs (bank : UInt8)
  | readConfig (bank : UInt8)

def make (expander : Expander) : Call → Action (Option UInt8)
  | .setInversion bank mask => do
      expander.setInversion bank mask
      return none
  | .setInputs bank inputs => do
      expander.setInputs bank inputs
      return none
  | .setOutputs bank levels => do
      expander.setOutputs bank levels
      return none
  | .setOutput bank channel level => do
      expander.setOutput bank channel level
      return none
  | .readInputs bank => do
      return some (← expander.readInputs bank)
  | .readOutputs bank => do
      return some (← expander.readOutputs bank)
  | .readConfig bank => do
      return some (← expander.readConfig bank)

def makeAll :
    List (Expander × Call) → Routine Handle.interface (List (Except Error (Option UInt8)))
  | [] => return []
  | (expander, call) :: rest => do
      let result ← (expander.make call).run
      let results ← makeAll rest
      return result :: results

namespace Call

def bank : Call → UInt8
  | setInversion bank _ | setInputs bank _ | setOutputs bank _ | setOutput bank _ _
  | readInputs bank | readOutputs bank | readConfig bank => bank

def channel? : Call → Option UInt8
  | setOutput _ channel _ => some channel
  | _ => none

/-- Why a call is refused. The bank is looked at first. -/
def refusal? (call : Call) : Option Error :=
  if banks ≤ call.bank then
    some (.invalidBank call.bank)
  else
    (call.channel?.filter fun channel => channels ≤ channel).map .invalidChannel

def write? : Call → Option (Kind × (UInt8 → UInt8))
  | setInversion _ mask => some (.inversion, fun _ => mask)
  | setInputs _ inputs => some (.config, fun _ => inputs)
  | setOutputs _ levels => some (.output, fun _ => levels)
  | setOutput _ channel level => some (.output, fun levels => withChannel levels channel level)
  | readInputs _ | readOutputs _ | readConfig _ => none

def read? : Call → Option Kind
  | readInputs _ => some .input
  | readOutputs _ => some .output
  | readConfig _ => some .config
  | setInversion _ _ | setInputs _ _ | setOutputs _ _ | setOutput _ _ _ => none

def change? (kind : Kind) (bank : UInt8) (call : Call) : Option (UInt8 → UInt8) :=
  match call.refusal?, call.write? with
  | none, some (written, change) =>
      if written = kind ∧ call.bank = bank then some change else none
  | _, _ => none

def answer (call : Call) (bytes : Kind → UInt8 → UInt8) : Except Error (Option UInt8) :=
  match call.refusal? with
  | some error => .error error
  | none => .ok (call.read?.map fun kind => bytes kind call.bank)

theorem bank_lt {call : Call} (accepted : call.refusal? = none) : call.bank < banks := by
  by_contra beyond
  rw [refusal?, if_pos (UInt8.not_lt.mp beyond)] at accepted
  cases accepted

end Call

/-- What becomes of the bytes in the registers: of each, by the calls that write there. -/
def held (bytes : Kind → UInt8 → UInt8) (calls : List Call) (kind : Kind) (bank : UInt8) : UInt8 :=
  (calls.filterMap (Call.change? kind bank)).foldl (fun byte change => change byte)
    (bytes kind bank)

theorem held_append (bytes : Kind → UInt8 → UInt8) (before after : List Call) :
    held bytes (before ++ after) = held (held bytes before) after := by
  funext kind bank
  simp only [held, List.filterMap_append, List.foldl_append]

theorem Call.answer_congr {one two : Kind → UInt8 → UInt8} {call : Call} {before : List Call}
    (same : ∀ kind bank, bank < banks → one kind bank = two kind bank) :
    call.answer (held one before) = call.answer (held two before) := by
  unfold answer
  cases accepted : call.refusal? with
  | some error => rfl
  | none => simp only [held, same _ _ (bank_lt accepted)]

/-! ## The registers -/

def bytesIn (cells : UInt8 → UInt8) (kind : Kind) (bank : UInt8) : UInt8 :=
  cells (kind.base + bank)

def Spared (register : UInt8) (calls : List Call) : Prop :=
  ∀ call ∈ calls, ∀ kind, (call.change? kind call.bank).isSome → register ≠ kind.base + call.bank

theorem Spared.of_ge {register : UInt8} (behind : 8 ≤ register) (calls : List Call) :
    Spared register calls := by
  intro call _ kind writes equal
  have accepted : call.refusal? = none := by
    cases refused : call.refusal? with
    | none => rfl
    | some error => simp [Call.change?, refused] at writes
  have bank : call.bank.toNat < 2 := Call.bank_lt accepted
  have high : 8 ≤ register.toNat := behind
  have sum := congrArg UInt8.toNat equal
  cases kind <;> simp only [Kind.base, UInt8.toNat_add, UInt8.reduceToNat] at sum <;> omega

structure Follows (before after : UInt8 → UInt8) (calls : List Call) : Prop where
  banks : ∀ kind bank, bank < banks →
    bytesIn after kind bank = held (bytesIn before) calls kind bank
  spared : ∀ register, Spared register calls → after register = before register

namespace Follows

variable {before middle after : UInt8 → UInt8} {calls rest : List Call} {call : Call}

theorem refl (cells : UInt8 → UInt8) : Follows cells cells [] :=
  ⟨fun _ _ _ => rfl, fun _ _ => rfl⟩

theorem append (one : Follows before middle calls) (two : Follows middle after rest) :
    Follows before after (calls ++ rest) := by
  refine ⟨?_, ?_⟩
  · intro kind bank inside
    rw [held_append, two.banks kind bank inside, held, held, one.banks kind bank inside]
  · intro register spared
    rw [two.spared register fun call member => spared call (List.mem_append_right _ member)]
    exact one.spared register fun call member => spared call (List.mem_append_left _ member)

theorem idle (cells : UInt8 → UInt8) (reads : ∀ kind bank, call.change? kind bank = none) :
    Follows cells cells [call] := by
  refine ⟨?_, fun _ _ => rfl⟩
  intro kind bank _
  simp [held, reads kind bank]

theorem write {kind : Kind} {change : UInt8 → UInt8} (cells : UInt8 → UInt8)
    (accepted : call.refusal? = none) (writes : call.write? = some (kind, change)) :
    Follows cells
      (Function.update cells (kind.base + call.bank) (change (cells (kind.base + call.bank))))
      [call] := by
  have changes (other : Kind) (bank : UInt8) : call.change? other bank =
      if kind = other ∧ call.bank = bank then some change else none := by
    rw [Call.change?, accepted, writes]
  have valid := Call.bank_lt accepted
  refine ⟨?_, ?_⟩
  · intro other bank inside
    by_cases same : kind = other ∧ call.bank = bank
    · rcases same with ⟨rfl, rfl⟩
      simp [held, changes, bytesIn]
    · have apart : other.base + bank ≠ kind.base + call.bank := fun equal =>
        same ((register_inj inside valid equal).imp Eq.symm Eq.symm)
      simp [held, changes, bytesIn, same, apart]
  · intro register spared
    apply Function.update_of_ne
    apply spared call List.mem_cons_self kind
    simp [changes]

end Follows

/-! ## On the bus -/

theorem make_cases (call : Call) :
    (∃ kind value, call.channel? = none ∧ call.read? = none ∧
      call.write? = some (kind, fun _ => value) ∧
      ∀ expander : Expander, expander.make call = do
        expander.write kind call.bank value
        return none) ∨
    (∃ kind, call.channel? = none ∧ call.read? = some kind ∧ call.write? = none ∧
      ∀ expander : Expander, expander.make call = do
        return some (← expander.read kind call.bank)) ∨
    ∃ bank channel level, call = .setOutput bank channel level := by
  cases call with
  | setInversion bank mask => exact .inl ⟨_, _, rfl, rfl, rfl, fun _ => rfl⟩
  | setInputs bank inputs => exact .inl ⟨_, _, rfl, rfl, rfl, fun _ => rfl⟩
  | setOutputs bank levels => exact .inl ⟨_, _, rfl, rfl, rfl, fun _ => rfl⟩
  | readInputs bank => exact .inr (.inl ⟨_, rfl, rfl, rfl, fun _ => rfl⟩)
  | readOutputs bank => exact .inr (.inl ⟨_, rfl, rfl, rfl, fun _ => rfl⟩)
  | readConfig bank => exact .inr (.inl ⟨_, rfl, rfl, rfl, fun _ => rfl⟩)
  | setOutput bank channel level => exact .inr (.inr ⟨_, _, _, rfl⟩)

theorem make_refused (expander : Expander) {call : Call} {error : Error}
    (refused : call.refusal? = some error) :
    (expander.make call).run = .done (.error error) := by
  by_cases valid : call.bank < banks
  · -- Only the channel can be wrong.
    rw [Call.refusal?, if_neg (UInt8.not_le.mpr valid)] at refused
    rcases make_cases call with ⟨_, _, plain, _⟩ | ⟨_, plain, _⟩ | ⟨bank, channel, level, rfl⟩
    · rw [plain] at refused
      cases refused
    · rw [plain] at refused
      cases refused
    · rcases Option.map_eq_some_iff.mp refused with ⟨_, chosen, rfl⟩
      rcases Option.filter_eq_some_iff.mp chosen with ⟨⟨rfl⟩, beyond⟩
      have small : bank < banks := valid
      have high : channel ≥ channels := of_decide_eq_true beyond
      simp only [make, setOutput, registerOf, if_pos small, if_pos high]
      rfl
  · rw [Call.refusal?, if_pos (UInt8.not_lt.mp valid)] at refused
    cases refused
    rcases make_cases call with
      ⟨_, _, _, _, _, made⟩ | ⟨_, _, _, _, made⟩ | ⟨bank, channel, level, rfl⟩
    · rw [made, write, registerOf, if_neg valid]
      rfl
    · rw [made, read, registerOf, if_neg valid]
      rfl
    · have large : ¬bank < banks := valid
      simp only [make, setOutput, registerOf, if_neg large]
      rfl

theorem make_accepted (expander : Expander) {call : Call} (accepted : call.refusal? = none) :
    (∃ kind value, call.read? = none ∧ call.write? = some (kind, fun _ => value) ∧
      (expander.make call).run = .ask
        (Handle.Request.hold fun bus =>
          bus.writeArray expander.handle.address (kind.base + call.bank) [value] true)
        fun answer => .done ((answer.mapError Error.bus).map fun _ => none)) ∨
    (∃ kind, call.read? = some kind ∧ call.write? = none ∧
      (expander.make call).run = .ask
        (Handle.Request.hold fun bus =>
          bus.readArray expander.handle.address (kind.base + call.bank) 1)
        fun answer => .done ((answer.mapError Error.bus).map fun bytes => some (bytes.headD 0))) ∨
    ∃ kind change, call.read? = none ∧ call.write? = some (kind, change) ∧
      (expander.make call).run = .ask
        (Handle.Request.hold fun bus => do
          let levels ← bus.readArray expander.handle.address (kind.base + call.bank) 1
          bus.writeArray expander.handle.address (kind.base + call.bank)
            [change (levels.headD 0)] true)
        fun answer => .done ((answer.mapError Error.bus).map fun _ => none) := by
  have valid := Call.bank_lt accepted
  rcases make_cases call with
    ⟨kind, value, _, reads, writes, made⟩ | ⟨kind, _, reads, writes, made⟩ |
    ⟨bank, channel, level, rfl⟩
  · refine .inl ⟨kind, value, reads, writes, ?_⟩
    rw [made, write, registerOf, if_pos valid]
    refine congrArg (Routine.ask _) (funext fun answer => ?_)
    cases answer <;> rfl
  · refine .inr (.inl ⟨kind, reads, writes, ?_⟩)
    rw [made, read, registerOf, if_pos valid]
    refine congrArg (Routine.ask _) (funext fun answer => ?_)
    cases answer <;> rfl
  · refine .inr (.inr ⟨_, _, rfl, rfl, ?_⟩)
    have small : bank < banks := valid
    have low : ¬channel ≥ channels := by
      intro beyond
      rw [Call.refusal?, if_neg (UInt8.not_le.mpr valid)] at accepted
      simp [Call.channel?, UInt8.not_lt.mpr beyond] at accepted
    simp only [make, setOutput, registerOf, if_pos small, if_neg low]
    refine congrArg (Routine.ask _) (funext fun answer => ?_)
    cases answer <;> rfl

variable {bus : Bus} {board : Board Circuit} {file : ByteFile}

theorem make_step {expander : Expander} (tends : bus.Tends expander.handle board file)
    (call : Call) :
    let ran := board.run ((expander.make call).run.carryOut (Handle.carry bus false))
    ran.1 = call.answer (bytesIn file.cells) ∧
      (∃ after, bus.Tends expander.handle ran.2 after ∧
        Follows file.cells after.cells [call]) ∧
      Bus.Leaves expander.handle.address board.transport ran.2.transport := by
  cases accepted : call.refusal? with
  | some error =>
      have idle (kind : Kind) (bank : UInt8) : call.change? kind bank = none := by
        rw [Call.change?, accepted]
      rw [make_refused expander accepted, Call.answer, accepted]
      exact ⟨rfl, ⟨file, tends, .idle _ idle⟩, .refl _ _⟩
  | none =>
      simp only [Call.answer, accepted]
      rcases make_accepted expander accepted with
        ⟨kind, value, reads, writes, made⟩ | ⟨kind, reads, writes, made⟩ |
        ⟨kind, change, reads, writes, made⟩
      · rcases tends.put (kind.base + call.bank) value with ⟨went, still, leaves⟩
        rw [made, Handle.run_ask_hold, went, reads]
        exact ⟨rfl, ⟨_, still, .write _ accepted writes⟩, leaves⟩
      · rcases tends.look (kind.base + call.bank) with ⟨saw, still, leaves⟩
        have idle (kind : Kind) (bank : UInt8) : call.change? kind bank = none := by
          rw [Call.change?, accepted, writes]
        rw [made, Handle.run_ask_hold, saw, reads]
        exact ⟨rfl, ⟨_, still, .idle _ idle⟩, leaves⟩
      · rcases tends.change (kind.base + call.bank) change with ⟨went, still, leaves⟩
        rw [made, Handle.run_ask_hold, went, reads]
        exact ⟨rfl, ⟨_, still, .write _ accepted writes⟩, leaves⟩

theorem makeAll_step {handle : Handle} {calls : List (Expander × Call)}
    (tends : bus.Tends handle board file) (same : ∀ call ∈ calls, call.1.handle = handle) :
    let ran := board.run ((makeAll calls).carryOut (Handle.carry bus false))
    (ran.1.length = calls.length ∧
      ∀ before expander call after, calls = before ++ (expander, call) :: after →
        ran.1[before.length]? =
          some (call.answer (held (bytesIn file.cells) (before.map Prod.snd)))) ∧
      (∃ after, bus.Tends handle ran.2 after ∧
        Follows file.cells after.cells (calls.map Prod.snd)) ∧
      Bus.Leaves handle.address board.transport ran.2.transport := by
  induction calls generalizing board file with
  | nil =>
      refine ⟨⟨rfl, ?_⟩, ⟨file, tends, .refl _⟩, .refl _ _⟩
      intro before expander call after split
      cases List.append_eq_nil_iff.mp split.symm |>.2
  | cons first rest induction =>
      rcases first with ⟨expander, call⟩
      have own : expander.handle = handle := same _ List.mem_cons_self
      subst own
      rcases make_step tends call with ⟨gave, ⟨middle, still, follows⟩, leaves⟩
      have others : ∀ other ∈ rest, other.1.handle = expander.handle := fun other member =>
        same other (List.mem_cons_of_mem _ member)
      rcases induction still others with
        ⟨⟨length, answers⟩, ⟨final, lasts, followsToo⟩, leavesToo⟩
      have ran :
          board.run ((makeAll ((expander, call) :: rest)).carryOut (Handle.carry bus false)) =
          let one := board.run ((expander.make call).run.carryOut (Handle.carry bus false))
          let two := one.2.run ((makeAll rest).carryOut (Handle.carry bus false))
          (one.1 :: two.1, two.2) := by
        simp only [makeAll, Board.run, Routine.bind_eq_bind, Routine.pure_eq_done,
          Routine.carryOut_bind, Routine.run_bind]
        rfl
      rw [ran]
      refine ⟨⟨congrArg (· + 1) length, ?_⟩, ⟨final, lasts, follows.append followsToo⟩,
        leaves.trans leavesToo⟩
      intro before other wanted after split
      rcases List.cons_eq_append_iff.mp split with ⟨rfl, same⟩ | ⟨earlier, rfl, same⟩
      · cases same
        exact congrArg some gave
      · have later := answers earlier other wanted after same
        rw [Call.answer_congr follows.banks, ← held_append] at later
        exact later

/-- Users of an expander on a bus where nothing is about to go wrong lose nothing of what they set.
A call with a wrong bank or channel is refused before anything is asked of the bus. Every other call
goes well: what it reads is what the calls before it have made of the register, and in the end each
register holds what all calls have made of it. Registers that no call writes, and the other slaves,
stay as they are. -/
theorem makeAll_banks (bus : Bus) (board : Board Circuit) (slave : Slave) (handle : Handle)
    (calls : List (Expander × Call)) (free : board.access = .free)
    (node : board.transport.node = bus.node) (built : board.transport.Built)
    (usable : bus.Usable board.transport) (polls : 1 ≤ bus.config.pollAttempts)
    (stalls : board.transport.stalls = 0) (losses : board.transport.losses = 0)
    (willing : ∀ address, board.transport.refusalsAt address = 0)
    (attached : board.transport.slave? handle.address = some slave) (flat : slave.paged = false)
    (same : ∀ call ∈ calls, call.1.handle.address = handle.address) :
    let ran := board.run ((makeAll calls).carryOut (Handle.carry bus false))
    let start := bytesIn slave.file.cells
    (ran.1.length = calls.length ∧
      ∀ before expander call after, calls = before ++ (expander, call) :: after →
        ran.1[before.length]? = some (call.answer (held start (before.map Prod.snd))) ∧
        ∀ error, call.refusal? = some error → (expander.make call).run = .done (.error error)) ∧
      (∃ final, ran.2.transport.slave? handle.address = some final ∧
        (∀ kind bank, bank < banks →
          bytesIn final.file.cells kind bank = held start (calls.map Prod.snd) kind bank) ∧
        ∀ register, Spared register (calls.map Prod.snd) →
          final.file.cells register = slave.file.cells register) ∧
      (∀ other, handle.address ≠ other →
        ran.2.transport.slave? other = board.transport.slave? other) ∧
      ∀ levels channel level index, channel < channels → index < 8 →
        (withChannel levels channel level).toBitVec.getLsbD index =
          if index = channel.toNat then level else levels.toBitVec.getLsbD index := by
  intro ran start
  have own : ∀ call ∈ calls, call.1.handle = handle := fun call member =>
    Handle.eq_of_address (same call member)
  have tends : bus.Tends handle board slave.file :=
    ⟨polls, free, node, usable, built.progress, stalls, losses, slave, attached,
      (built.sound attached).flat_shape flat,
      (Circuit.refusalsAt_attached attached).symm.trans (willing _), rfl⟩
  rcases makeAll_step tends own with ⟨⟨length, answers⟩, ⟨file, still, follows⟩, leaves⟩
  rcases still.attached with ⟨final, found, _, _, rfl⟩
  refine ⟨⟨length, ?_⟩, ⟨final, found, follows.banks, follows.spared⟩, ?_, ?_⟩
  · intro before expander call after split
    exact ⟨answers before expander call after split, fun error => make_refused expander⟩
  · exact fun other different => leaves other different (willing other)
  · exact fun levels channel level index inside bound => withChannel_bit levels level inside bound

theorem makeAll_banks_two_users :
    let bus : Bus := { node := "i2c", config := {}, slaves := .empty }
    let board := Board.ofTransport ((Circuit.ofNode "i2c").attach 0x20 .flat)
    let mine : Expander := { handle := { address := 0x20 } }
    let other : Expander := { handle := { address := 0x20 } }
    let calls : List (Expander × Call) :=
      [ (mine, .setOutputs 0 0x0F), (other, .setOutput 0 7 true), (mine, .setOutput 1 0 true),
        (other, .setOutput 0 8 true), (other, .setInversion 2 1), (mine, .readOutputs 0) ]
    let ran := board.run ((makeAll calls).carryOut (Handle.carry bus false))
    ran.1.length = 6 ∧ ran.1[3]? = some (.error (.invalidChannel 8)) ∧
      ran.1[4]? = some (.error (.invalidBank 2)) ∧ ran.1[5]? = some (.ok (some 0x8F)) ∧
      ∃ final, ran.2.transport.slave? mine.handle.address = some final ∧
        final.file.cells 2 = 0x8F ∧ final.file.cells 3 = 1 ∧ final.file.cells 9 = 0 := by
  intro bus board mine other calls
  have built : board.transport.Built := .attach (.ofNode "i2c") 0x20 .flat (.inr rfl)
  have willing (address : UInt8) : board.transport.refusalsAt address = 0 := by
    change (((Table.insert .empty 0x20 Slave.flat).get? address).map Slave.refusals).getD 0 = 0
    rw [Table.get?_insert]
    split <;> rfl
  rcases makeAll_banks bus board .flat mine.handle calls rfl rfl built (.inr (by decide))
      (by decide) rfl rfl willing rfl rfl (by simp [calls, mine, other]) with
    ⟨⟨length, answers⟩, ⟨final, found, registers, spared⟩, _⟩
  have read : (Call.readOutputs 0).answer (held (bytesIn Slave.flat.file.cells)
      ((calls.take 5).map Prod.snd)) = .ok (some 0x8F) := by
    decide +kernel +zetaReduce
  have low : held (bytesIn Slave.flat.file.cells) (calls.map Prod.snd) .output 0 = 0x8F := by
    decide +kernel +zetaReduce
  have high : held (bytesIn Slave.flat.file.cells) (calls.map Prod.snd) .output 1 = 1 := by
    decide +kernel +zetaReduce
  have zero : Slave.flat.file.cells 9 = 0 := by decide +kernel
  refine ⟨length, (answers (calls.take 3) _ _ _ rfl).1, (answers (calls.take 4) _ _ _ rfl).1,
    ?_, final, found, (registers .output 0 (by decide)).trans low,
    (registers .output 1 (by decide)).trans high,
    (spared 9 (.of_ge (by decide) _)).trans zero⟩
  rw [← read]
  exact (answers (calls.take 5) _ _ _ rfl).1

end Chip.Expander

end ClockBoard
