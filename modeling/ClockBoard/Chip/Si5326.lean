import ClockBoard.Chip.Basic

/-!
The Si5326 clock multiplier, whose 256 registers need no pages.
-/

namespace ClockBoard.Chip

/-- What the chip says about itself. The part number has a digit in each half byte. -/
structure DeviceId where
  partNumber : UInt16
  revision : UInt8
deriving DecidableEq

structure Si5326 where
  handle : Handle

namespace Si5326

/-- The first of two registers, which hold the part number in twelve bits and the revision in the
four below. -/
def deviceIdRegister : UInt8 :=
  134

def readDeviceId (chip : Si5326) : Action DeviceId := do
  let bytes ← chip.handle.readRegisters deviceIdRegister 2
  let low := bytes.getD 1 0
  return { partNumber := joinBytes (bytes.getD 0 0) low >>> 4, revision := low &&& 0x0F }

def readRegister (chip : Si5326) (register : UInt8) : Action UInt8 :=
  liftM (chip.handle.readRegister register)

def writeRegister (chip : Si5326) (address : UInt16) (value : UInt8) : Action Unit :=
  if address ≤ 0xFF then
    liftM (chip.handle.writeRegister (lowByte address) value)
  else
    throw (.addressOutOfRange address)

def configureFile (chip : Si5326) (policy : Upload.Policy) (file : Listing.File) :
    Action Upload.Outcome := do
  announce chip.handle "Configuring Si5326"
  configure chip.writeRegister (Upload.uploadFile policy .plain file)

def configureText (chip : Si5326) (policy : Upload.Policy) (text : String) :
    Action Upload.Outcome :=
  configure chip.writeRegister (Upload.uploadText policy .plain text)

end Si5326

end ClockBoard.Chip
