import ClockBoard.Chip.Basic
import ClockBoard.Layout.Basic
import ClockBoard.Text.Utf8

/-!
An SFP transceiver has two slaves. One tells what the module is, the other holds its monitors and
the switch of its transmitter. Monitors can be read only if the module has them and calibrates
them itself.
-/

namespace ClockBoard.Chip

structure MonitoringType where
  implemented : Bool
  internallyCalibrated : Bool
  externallyCalibrated : Bool
  rxPowerAverage : Bool
  addressChangeRequired : Bool
deriving DecidableEq

def MonitoringType.placed : Layout.Placed MonitoringType where
  register := 92
  layout :=
    { bytes := 1
      blank := ⟨false, false, false, false, false⟩
      fields :=
        [ .flag "ddm_implemented" 6 implemented fun value kind =>
            { kind with implemented := value },
          .flag "internally_calibrated" 5 internallyCalibrated fun value kind =>
            { kind with internallyCalibrated := value },
          .flag "externally_calibrated" 4 externallyCalibrated fun value kind =>
            { kind with externallyCalibrated := value },
          .flag "rx_power_average" 3 rxPowerAverage fun value kind =>
            { kind with rxPowerAverage := value },
          .flag "address_change_required" 2 addressChangeRequired fun value kind =>
            { kind with addressChangeRequired := value } ] }

structure StatusControl where
  txDisableState : Bool
  softTxDisable : Bool
  rs1State : Bool
  rateSelectState : Bool
  softRateSelect : Bool
  txFault : Bool
  rxLos : Bool
  dataNotReady : Bool
deriving DecidableEq

def StatusControl.placed : Layout.Placed StatusControl where
  register := 110
  layout :=
    { bytes := 1
      blank := ⟨false, false, false, false, false, false, false, false⟩
      fields :=
        [ .flag "tx_disable_state" 7 txDisableState fun value status =>
            { status with txDisableState := value },
          .flag "soft_tx_disable" 6 softTxDisable fun value status =>
            { status with softTxDisable := value },
          .flag "rs1_state" 5 rs1State fun value status => { status with rs1State := value },
          .flag "rate_select_state" 4 rateSelectState fun value status =>
            { status with rateSelectState := value },
          .flag "soft_rate_select" 3 softRateSelect fun value status =>
            { status with softRateSelect := value },
          .flag "tx_fault" 2 txFault fun value status => { status with txFault := value },
          .flag "rx_los" 1 rxLos fun value status => { status with rxLos := value },
          .flag "data_not_ready" 0 dataNotReady fun value status =>
            { status with dataNotReady := value } ] }

/-- What the monitors show: degrees Celsius, volts, milliamperes and milliwatts. -/
structure Diagnostics where
  temperature : Float
  vcc : Float
  txBias : Float
  txPower : Float
  rxPower : Float

namespace Sfp

def serialId : Handle where
  address := 0x50

def diagnosticsPage : Handle where
  address := 0x51

/-! ## Identity -/

def present : Routine Handle.interface Bool :=
  serialId.ping

def readText (register : UInt8) : Action String := do
  let bytes ← serialId.readRegisters register 16
  return String.ofList (Text.trimEnd (Text.Utf8.decode bytes))

def vendorName : Action String :=
  readText 20

def partNumber : Action String :=
  readText 40

/-! ## Monitors -/

def monitoringType : Action MonitoringType :=
  liftM (serialId.readLayout MonitoringType.placed)

def checkDiagnostics : Action Unit := do
  let kind ← monitoringType
  if !kind.implemented then
    throw .diagnosticsUnsupported
  else if !kind.internallyCalibrated then
    throw .externalCalibration

def readWord (register : UInt8) : Action UInt16 := do
  let bytes ← diagnosticsPage.readRegisters register 2
  return joinBytes (bytes.getD 0 0) (bytes.getD 1 0)

def scaled (step : Float) (word : UInt16) : Float :=
  word.toNat.toFloat * step

/-- A word in two's complement, in units of a 256th. -/
def signedFixed (word : UInt16) : Float :=
  Float.ofInt word.toInt16.toInt / 256

def temperature : Action Float :=
  signedFixed <$> readWord 96

def vcc : Action Float :=
  scaled 1e-4 <$> readWord 98

def txBias : Action Float :=
  scaled 2e-3 <$> readWord 100

def txPower : Action Float :=
  scaled 1e-4 <$> readWord 102

def rxPower : Action Float :=
  scaled 1e-4 <$> readWord 104

def diagnostics : Action Diagnostics := do
  checkDiagnostics
  return {
    temperature := ← temperature
    vcc := ← vcc
    txBias := ← txBias
    txPower := ← txPower
    rxPower := ← rxPower }

/-! ## Transmitter -/

def status : Action StatusControl :=
  liftM (diagnosticsPage.readLayout StatusControl.placed)

def txDisabled : Action Bool :=
  StatusControl.softTxDisable <$> status

/-- Switch the transmitter off or on. The switches are read in one hold of the bus and written in
the next. -/
def setTxDisable (disable : Bool) : Action Unit := do
  let status ← status
  diagnosticsPage.writeLayout StatusControl.placed { status with softTxDisable := disable }

end Sfp

end ClockBoard.Chip
