import ClockBoard.Chip.Sfp
import ClockBoard.Chip.Si5326
import ClockBoard.Chip.Si534x
import ClockBoard.Proofs.Bus.Patience
import ClockBoard.Proofs.Chip.Expander

/-!
Programs of users who call the functions of a bus and of the chips on it, and decide what to do next
by what they have been told.

The main statement says that such a program ends in the same way whether or not the core stalls, as
long as each wait of the bus may be longer than the stall.
-/

namespace ClockBoard

open ClockBoard.Link ClockBoard.Simulation ClockBoard.Routine

/-! ## Calls -/

namespace Chip

inductive Si534x.Call
  | writeRegister (address : UInt16) (value : UInt8)
  | readRegister (address : UInt16)
  | readRegisters (address : UInt16) (count : Nat)
  | readVersion
  | readDesign
  | configureFile (policy : Upload.Policy) (file : Listing.File)
  | configureText (policy : Upload.Policy) (text : String)

@[reducible] def Si534x.Call.Answer : Call → Type
  | .writeRegister _ _ => Unit
  | .readRegister _ => UInt8
  | .readRegisters _ _ => List UInt8
  | .readVersion => UInt16
  | .readDesign => String
  | .configureFile _ _ | .configureText _ _ => Upload.Outcome

def Si534x.answer (chip : Si534x) : (call : Call) → Action call.Answer
  | .writeRegister address value => chip.writeRegister address value
  | .readRegister address => chip.readRegister address
  | .readRegisters address count => chip.readRegisters address count
  | .readVersion => chip.readVersion
  | .readDesign => chip.readDesign
  | .configureFile policy file => chip.configureFile policy file
  | .configureText policy text => chip.configureText policy text

inductive Si5326.Call
  | readDeviceId
  | readRegister (register : UInt8)
  | writeRegister (address : UInt16) (value : UInt8)
  | configureFile (policy : Upload.Policy) (file : Listing.File)
  | configureText (policy : Upload.Policy) (text : String)

@[reducible] def Si5326.Call.Answer : Call → Type
  | .readDeviceId => DeviceId
  | .readRegister _ => UInt8
  | .writeRegister _ _ => Unit
  | .configureFile _ _ | .configureText _ _ => Upload.Outcome

def Si5326.answer (chip : Si5326) : (call : Call) → Action call.Answer
  | .readDeviceId => chip.readDeviceId
  | .readRegister register => chip.readRegister register
  | .writeRegister address value => chip.writeRegister address value
  | .configureFile policy file => chip.configureFile policy file
  | .configureText policy text => chip.configureText policy text

inductive Sfp.Call
  | vendorName
  | partNumber
  | monitoringType
  | checkDiagnostics
  | temperature
  | vcc
  | txBias
  | txPower
  | rxPower
  | diagnostics
  | status
  | txDisabled
  | setTxDisable (disable : Bool)

@[reducible] def Sfp.Call.Answer : Call → Type
  | .vendorName | .partNumber => String
  | .monitoringType => MonitoringType
  | .checkDiagnostics | .setTxDisable _ => Unit
  | .temperature | .vcc | .txBias | .txPower | .rxPower => Float
  | .diagnostics => Diagnostics
  | .status => StatusControl
  | .txDisabled => Bool

def Sfp.answer : (call : Call) → Action call.Answer
  | .vendorName => vendorName
  | .partNumber => partNumber
  | .monitoringType => monitoringType
  | .checkDiagnostics => checkDiagnostics
  | .temperature => temperature
  | .vcc => vcc
  | .txBias => txBias
  | .txPower => txPower
  | .rxPower => rxPower
  | .diagnostics => diagnostics
  | .status => status
  | .txDisabled => txDisabled
  | .setTxDisable disable => setTxDisable disable

/-- What a user of a bus may call: functions of the bus, as many as it likes under one hold, and
those of slaves and chips. -/
inductive Call : Type 1
  | hold {α : Type} (work : Routine Bus.calls α)
  | ping (handle : Handle)
  | access (handle : Handle) (access : Handle.Access)
  | expander (expander : Expander) (call : Expander.Call)
  | si5326 (chip : Si5326) (call : Si5326.Call)
  | si534x (chip : Si534x) (call : Si534x.Call)
  | present
  | sfp (call : Sfp.Call)

@[reducible] def calls : Interface.{1} where
  Request := Call
  Answer
    | @Call.hold α _ => Except Bus.Error α
    | .ping _ | .present => Bool
    | .access _ _ => Except Bus.Error (List UInt8)
    | .expander _ _ => Except Error (Option UInt8)
    | .si5326 _ call => Except Error call.Answer
    | .si534x _ call => Except Error call.Answer
    | .sfp call => Except Error call.Answer

def answer : (call : Call) → Routine Handle.interface (calls.Answer call)
  | .hold work => (Handle.hold fun bus => ExceptT.lift (work.carryOut bus.answer)).run
  | .ping handle => handle.ping
  | .access handle access => (handle.access access).run
  | .expander expander call => (expander.make call).run
  | .si5326 chip call => (chip.answer call).run
  | .si534x chip call => (chip.answer call).run
  | .present => Sfp.present
  | .sfp call => (Sfp.answer call).run

end Chip

variable {bus : Bus} {poisoned : Bool} {most : Nat} {α β : Type}

/-! ## Handles -/

abbrev Handle.Patient (bus : Bus) (poisoned : Bool) (most : Nat)
    (routine : Routine Handle.interface α) : Prop :=
  Keeps (fun request => (Handle.carry bus poisoned request).run Circuit.serve)
    (Circuit.Lags most) routine

namespace Handle

theorem patient_hold {work : Bus → Bus.Action α} (patient : Bus.Patient most (work bus).run) :
    Patient bus poisoned most (hold work).run := by
  intro one two lags
  cases poisoned with
  | true => exact ⟨rfl, lags⟩
  | false => exact patient one two lags

theorem patient_note (event : Event) : Patient bus poisoned most (Handle.note event) :=
  fun _ _ lags => ⟨rfl, lags⟩

variable (patient : most < bus.config.pollAttempts)
include patient

theorem patient_readRegisters (handle : Handle) (register : UInt8) (count : Nat) :
    Patient bus poisoned most (handle.readRegisters register count).run :=
  patient_hold (Bus.patient_readArray patient _ _ _)

theorem patient_writeRegisters (handle : Handle) (register : UInt8) (bytes : List UInt8) :
    Patient bus poisoned most (handle.writeRegisters register bytes).run :=
  patient_hold (Bus.patient_writeArray patient _ _ _ _)

theorem patient_readRegister (handle : Handle) (register : UInt8) :
    Patient bus poisoned most (handle.readRegister register).run :=
  keeps_bind_run (patient_readRegisters patient _ _ _) fun _ => keeps_done _

theorem patient_writeRegister (handle : Handle) (register value : UInt8) :
    Patient bus poisoned most (handle.writeRegister register value).run :=
  patient_writeRegisters patient _ _ _

theorem patient_readLayout (handle : Handle) (placed : Layout.Placed α) :
    Patient bus poisoned most (handle.readLayout placed).run :=
  keeps_bind_run (patient_readRegister patient _ _) fun _ => keeps_done _

theorem patient_writeLayout (handle : Handle) (placed : Layout.Placed α) (record : α) :
    Patient bus poisoned most (handle.writeLayout placed record).run :=
  keeps_bind_run (keeps_done _) fun _ => patient_writeRegister patient _ _ _

theorem patient_ping (handle : Handle) : Patient bus poisoned most handle.ping :=
  keeps_bind (patient_hold (keeps_bind (Bus.patient_ping patient _) fun _ => keeps_done _))
    fun _ => keeps_done _

theorem patient_access (handle : Handle) (access : Access) :
    Patient bus poisoned most (handle.access access).run := by
  cases access with
  | readRegisters register count => exact patient_readRegisters patient _ _ _
  | writeRegisters register bytes =>
      exact keeps_bind_run (patient_writeRegisters patient _ _ _) fun _ => keeps_done _
  | readRaw count => exact patient_hold (Bus.patient_readBlock patient _ _)
  | writeRaw bytes =>
      exact keeps_bind_run (patient_hold (Bus.patient_writeBlock patient _ _ _)) fun _ =>
        keeps_done _

end Handle

/-! ## Chips -/

namespace Chip

theorem patient_lift {action : Handle.Action α}
    (patient : Handle.Patient bus poisoned most action.run) :
    Handle.Patient bus poisoned most (liftM action : Action α).run :=
  keeps_bind patient fun _ => keeps_done _

theorem patient_upload {write : UInt16 → UInt8 → Action Unit}
    (writes : ∀ address value, Handle.Patient bus poisoned most (write address value).run)
    (routine : Routine Upload.interface α) :
    Handle.Patient bus poisoned most (upload write routine) := by
  refine keeps_carryOut (fun request => ?_) routine
  cases request with
  | write address value => exact keeps_bind (writes address value) fun _ => keeps_done _
  | settle milliseconds => exact keeps_done _
  | note event => exact Handle.patient_note event

theorem patient_configure {write : UInt16 → UInt8 → Action Unit}
    (writes : ∀ address value, Handle.Patient bus poisoned most (write address value).run)
    (routine : Routine Upload.interface (Except Upload.Error Upload.Outcome)) :
    Handle.Patient bus poisoned most (configure write routine).run :=
  keeps_bind (patient_upload writes routine) fun _ => keeps_done _

theorem patient_announce (handle : Handle) (message : String) :
    Handle.Patient bus poisoned most (announce handle message).run :=
  keeps_bind (Handle.patient_note _) fun _ => keeps_done _

variable (patient : most < bus.config.pollAttempts)
include patient

theorem Expander.patient_make (expander : Expander) (call : Expander.Call) :
    Handle.Patient bus poisoned most (expander.make call).run := by
  have write (kind : Kind) (bank value : UInt8) :
      Handle.Patient bus poisoned most (expander.write kind bank value).run :=
    keeps_bind_run (keeps_done _) fun _ => patient_lift (Handle.patient_writeRegister patient _ _ _)
  have read (kind : Kind) (bank : UInt8) :
      Handle.Patient bus poisoned most (expander.read kind bank).run :=
    keeps_bind_run (keeps_done _) fun _ => patient_lift (Handle.patient_readRegister patient _ _)
  rcases make_cases call with
    ⟨kind, value, _, _, _, made⟩ | ⟨kind, _, _, _, made⟩ | ⟨bank, channel, level, rfl⟩
  · rw [made]
    exact keeps_bind_run (write _ _ _) fun _ => keeps_done _
  · rw [made]
    exact keeps_bind_run (read _ _) fun _ => keeps_done _
  · refine keeps_bind_run (keeps_bind_run (keeps_done _) fun register => ?_) fun _ => keeps_done _
    dsimp only
    split
    · exact keeps_done _
    · refine patient_lift (Handle.patient_hold ?_)
      exact keeps_bind_run (Bus.patient_readArray patient _ _ _) fun _ =>
        Bus.patient_writeArray patient _ _ _ _

theorem Si5326.patient_answer (chip : Si5326) (call : Si5326.Call) :
    Handle.Patient bus poisoned most (chip.answer call).run := by
  have writes (address : UInt16) (value : UInt8) :
      Handle.Patient bus poisoned most (chip.writeRegister address value).run := by
    unfold writeRegister
    split
    · exact patient_lift (Handle.patient_writeRegister patient _ _ _)
    · exact keeps_done _
  cases call with
  | readDeviceId =>
      exact keeps_bind_run (patient_lift (Handle.patient_readRegisters patient _ _ _)) fun _ =>
        keeps_done _
  | readRegister register => exact patient_lift (Handle.patient_readRegister patient _ _)
  | writeRegister address value => exact writes address value
  | configureFile policy file =>
      exact keeps_bind_run (patient_announce _ _) fun _ => patient_configure writes _
  | configureText policy text => exact patient_configure writes _

theorem Si534x.patient_onPage (chip : Si534x) (page : UInt8) {work : Bus → UInt8 → Bus.Action α}
    (works : Bus.Patient most (work bus chip.handle.address).run) :
    Handle.Patient bus poisoned most (chip.onPage page work).run := by
  refine Handle.patient_hold ?_
  refine keeps_bind_run (Bus.patient_readArray patient _ _ _) fun bytes => ?_
  dsimp only
  split
  · refine keeps_bind_run (keeps_bind (Bus.patient_note _) fun _ => keeps_done _) fun _ => ?_
    exact keeps_bind_run (Bus.patient_writeArray patient _ _ _ _) fun _ => works
  · exact works

theorem Si534x.patient_readPieces (chip : Si534x) (run : List Piece) :
    Handle.Patient bus poisoned most (run.mapM chip.readPiece).run := by
  induction run with
  | nil => exact keeps_done _
  | cons piece rest induction =>
      rw [List.mapM_cons]
      have read : Handle.Patient bus poisoned most (chip.readPiece piece).run :=
        patient_lift (chip.patient_onPage patient _ (Bus.patient_readArray patient _ _ _))
      exact keeps_bind_run read fun _ => keeps_bind_run induction fun _ => keeps_done _

theorem Si534x.patient_answer (chip : Si534x) (call : Si534x.Call) :
    Handle.Patient bus poisoned most (chip.answer call).run := by
  have writes (address : UInt16) (value : UInt8) :
      Handle.Patient bus poisoned most (chip.writeRegister address value).run :=
    patient_lift (chip.patient_onPage patient _ (Bus.patient_writeArray patient _ _ _ _))
  have reads (address : UInt16) (count : Nat) :
      Handle.Patient bus poisoned most (chip.readRegisters address count).run :=
    keeps_bind_run (chip.patient_readPieces patient _) fun _ => keeps_done _
  cases call with
  | writeRegister address value => exact writes address value
  | readRegister address => exact keeps_bind_run (reads _ _) fun _ => keeps_done _
  | readRegisters address count => exact reads address count
  | readVersion => exact keeps_bind_run (reads _ _) fun _ => keeps_done _
  | readDesign => exact keeps_bind_run (reads _ _) fun _ => keeps_done _
  | configureFile policy file =>
      exact keeps_bind_run (patient_announce _ _) fun _ => patient_configure writes _
  | configureText policy text => exact patient_configure writes _

theorem Sfp.patient_answer (call : Sfp.Call) :
    Handle.Patient bus poisoned most (Sfp.answer call).run := by
  have text (register : UInt8) :
      Handle.Patient bus poisoned most (readText register).run :=
    keeps_bind_run (patient_lift (Handle.patient_readRegisters patient _ _ _)) fun _ =>
      keeps_done _
  have kind : Handle.Patient bus poisoned most monitoringType.run :=
    patient_lift (Handle.patient_readLayout patient _ _)
  have check : Handle.Patient bus poisoned most checkDiagnostics.run := by
    refine keeps_bind_run kind fun kind => ?_
    dsimp only
    split
    · exact keeps_done _
    · split <;> exact keeps_done _
  have word (register : UInt8) (view : UInt16 → Float) :
      Handle.Patient bus poisoned most (view <$> readWord register : Action Float).run := by
    have read : Handle.Patient bus poisoned most (readWord register).run :=
      keeps_bind_run (patient_lift (Handle.patient_readRegisters patient _ _ _)) fun _ =>
        keeps_done _
    exact keeps_bind_run read fun _ => keeps_done _
  have switches : Handle.Patient bus poisoned most status.run :=
    patient_lift (Handle.patient_readLayout patient _ _)
  cases call with
  | vendorName => exact text 20
  | partNumber => exact text 40
  | monitoringType => exact kind
  | checkDiagnostics => exact check
  | temperature => exact word 96 signedFixed
  | vcc => exact word 98 (scaled 1e-4)
  | txBias => exact word 100 (scaled 2e-3)
  | txPower => exact word 102 (scaled 1e-4)
  | rxPower => exact word 104 (scaled 1e-4)
  | diagnostics =>
      refine keeps_bind_run check fun _ => keeps_bind_run (word _ _) fun _ => ?_
      refine keeps_bind_run (word _ _) fun _ => keeps_bind_run (word _ _) fun _ => ?_
      refine keeps_bind_run (word _ _) fun _ => keeps_bind_run (word _ _) fun _ => ?_
      exact keeps_done _
  | status => exact switches
  | txDisabled => exact keeps_bind_run switches fun _ => keeps_done _
  | setTxDisable disable =>
      refine keeps_bind_run switches fun _ => ?_
      exact patient_lift (Handle.patient_writeLayout patient _ _ _)

theorem patient_answer (call : Call) :
    Handle.Patient bus poisoned most (Chip.answer call) := by
  cases call with
  | hold work =>
      refine Handle.patient_hold (keeps_bind (keeps_carryOut ?_ work) fun _ => keeps_done _)
      exact Bus.patient_answer patient
  | ping handle => exact Handle.patient_ping patient _
  | access handle access => exact Handle.patient_access patient _ _
  | expander expander call => exact expander.patient_make patient call
  | si5326 chip call => exact chip.patient_answer patient call
  | si534x chip call => exact chip.patient_answer patient call
  | present => exact Handle.patient_ping patient _
  | sfp call => exact Sfp.patient_answer patient call

omit patient

/-! ## Boards -/

/-- Users of a bus do not notice that its core stalls for fewer status reads than the bus makes:
whatever they call, they get the same answers, and leave the circuit as it would be without the
stall, but for what is left of the stall. -/
theorem calls_outwait_stall (bus : Bus) (poisoned : Bool) (board : Board Circuit) (polls : Nat)
    (calm : board.transport.stalls = 0) (short : polls < bus.config.pollAttempts)
    (program : Routine calls α) :
    let run (board : Board Circuit) :=
      board.run ((program.carryOut answer).carryOut (Handle.carry bus poisoned))
    let stalled := { board with transport := board.transport.stall polls }
    (run stalled).1 = (run board).1 ∧ (run board).2.transport.stalls = 0 ∧
      ∃ left ≤ polls, (run stalled).2.transport = (run board).2.transport.stall left := by
  intro run stalled
  have patient : Handle.Patient bus poisoned polls (program.carryOut answer) :=
    keeps_carryOut (fun call => patient_answer short call) program
  have lags : Circuit.Lags polls board.transport stalled.transport :=
    ⟨calm, polls, Nat.le_refl polls, rfl⟩
  by_cases free : board.access = .free
  · rcases Circuit.board_run _ board free with ⟨result, transport⟩
    rcases Circuit.board_run _ stalled free with ⟨resultToo, transportToo⟩
    rcases keeps_carryOut_iff.mpr patient _ _ lags with ⟨same, settled, left, few, late⟩
    refine ⟨resultToo.trans (same.symm.trans result.symm), ?_, left, few, ?_⟩
    · rw [transport]
      exact settled
    · rw [transport, transportToo]
      exact late
  · have access : board.access = stalled.access := rfl
    rcases Circuit.board_run_cut ((program.carryOut answer).carryOut (Handle.carry bus poisoned))
      free access with ⟨same, still, stillToo⟩
    refine ⟨same.symm, ?_, polls, Nat.le_refl polls, ?_⟩
    · rw [still]
      exact calm
    · rw [still, stillToo]

theorem calls_outwait_stall_lost :
    let bus : Bus := { node := "i2c", config := {}, slaves := .empty }
    let board := Board.ofTransport (((Circuit.ofNode "i2c").attach 0x20 .flat).loseArbitration 1)
    let chip : Expander := { handle := { address := 0x20 } }
    let program : Routine calls (List (Except Error (Option UInt8)) × Bool) := do
      let first ← Routine.request (Call.expander chip (.setOutput 0 1 true))
      let second ← Routine.request (Call.expander chip (.setOutput 0 1 true))
      let third ← Routine.request (Call.expander chip (.readOutputs 0))
      let absent ← Routine.request (Call.ping { address := 0x33 })
      return ([first, second, third], absent)
    let run (board : Board Circuit) :=
      board.run ((program.carryOut answer).carryOut (Handle.carry bus false))
    let stalled := { board with transport := board.transport.stall 19 }
    (run stalled).1 = ([.error (.bus .arbitrationLost), .ok none, .ok (some 2)], false) ∧
      ∃ left ≤ 19, (run stalled).2.transport = (run board).2.transport.stall left := by
  intro bus board chip program
  rcases calls_outwait_stall bus false board 19 rfl (by decide) program with ⟨same, _, late⟩
  refine ⟨same.trans ?_, late⟩
  decide +kernel +zetaReduce

end Chip

end ClockBoard
