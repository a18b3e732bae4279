import ClockBoard.Bus.Error
import ClockBoard.Text.Blank

/-!
Slaves have addresses of seven bits. A board's parameters give them as literals, in base ten or,
behind a marker, in base sixteen. Blanks around a literal do not count.
-/

namespace ClockBoard.Bus

def lastAddress : UInt8 :=
  0x7F

def checkAddress (address : UInt8) : Except Error Unit :=
  if address ≤ lastAddress then .ok () else .error (.addressOutOfRange address)

/-- The number that a literal without blanks around it denotes. -/
def addressNumber? : List Char → Option Nat
  | '0' :: 'x' :: digits => Text.signedNatural? 16 digits
  | '0' :: 'X' :: digits => Text.signedNatural? 16 digits
  | digits => Text.signedNatural? 10 digits

def parseAddress (literal : String) : Except Error UInt8 :=
  match addressNumber? (Text.trim literal.toList) with
  | none => .error (.invalidAddress literal)
  | some number =>
      if number < 256 then
        let address := UInt8.ofNat number
        (checkAddress address).map fun _ => address
      else
        .error (.invalidAddress literal)

end ClockBoard.Bus
