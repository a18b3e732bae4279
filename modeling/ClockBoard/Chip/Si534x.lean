import ClockBoard.Chip.Basic
import ClockBoard.Chip.Paging
import ClockBoard.Text.Utf8

/-!
The Si534x family of clock synthesizers. Their registers lie on pages, and anyone on the bus may
move the page, so the page is read back and set right before each access, under the same hold of
the bus as the access itself.
-/

namespace ClockBoard.Chip

structure Si534x where
  handle : Handle

namespace Si534x

open ClockBoard.Bus

def onPage {α : Type} (chip : Si534x) (page : UInt8) (work : Bus → UInt8 → Bus.Action α) :
    Handle.Action α :=
  chip.handle.withBus fun bus address => do
    let current := (← bus.readArray address pageRegister 1).headD 0
    if current ≠ page then
      Link.note
        { level := .trace
          message := "Switching Si534x page"
          fields :=
            [ ("slave", .number address.toNat),
              ("from", .number current.toNat),
              ("to", .number page.toNat) ] }
      bus.writeArray address pageRegister [page] true
    work bus address

def writeRegister (chip : Si534x) (address : UInt16) (value : UInt8) : Action Unit :=
  liftM <| chip.onPage (highByte address) fun bus slave =>
    bus.writeArray slave (lowByte address) [value] true

def readPiece (chip : Si534x) (piece : Piece) : Action (List UInt8) :=
  liftM <| chip.onPage (highByte piece.address) fun bus slave =>
    bus.readArray slave (lowByte piece.address) piece.count

def readRegisters (chip : Si534x) (address : UInt16) (count : Nat) : Action (List UInt8) := do
  let bytes ← (pieces address count).mapM chip.readPiece
  return bytes.flatten

def readRegister (chip : Si534x) (address : UInt16) : Action UInt8 := do
  let bytes ← chip.readRegisters address 1
  return bytes.headD 0

/-! ## Identity -/

/-- The registers of the part number, low byte first. -/
def partNumberRegister : UInt16 :=
  0x0002

def designRegister : UInt16 :=
  0x026B

def designLength : Nat :=
  8

def readVersion (chip : Si534x) : Action UInt16 := do
  let bytes ← chip.readRegisters partNumberRegister 2
  return joinBytes (bytes.getD 1 0) (bytes.getD 0 0)

/-- The design identifier without the zeros that fill it up. -/
def readDesign (chip : Si534x) : Action String := do
  let bytes ← chip.readRegisters designRegister designLength
  return String.ofList (Text.dropEndWhile (· == '\x00') (Text.Utf8.decode bytes))

/-! ## Configuration -/

def configureFile (chip : Si534x) (policy : Upload.Policy) (file : Listing.File) :
    Action Upload.Outcome := do
  announce chip.handle "Configuring Si534x"
  configure chip.writeRegister (Upload.uploadFile policy .sectioned file)

def configureText (chip : Si534x) (policy : Upload.Policy) (text : String) :
    Action Upload.Outcome :=
  configure chip.writeRegister (Upload.uploadText policy .sectioned text)

end Si534x

end ClockBoard.Chip
