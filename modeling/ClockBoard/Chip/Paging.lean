import ClockBoard.BytePair

/-!
A register space of 16 bits is reached through sub-registers of 8 bits on 256 pages. The high byte
of an address is its page and the low byte the sub-register. A run of registers that goes on over
the end of a page is read in pieces, each of which lies on one page; after the last page comes the
first one.
-/

namespace ClockBoard.Chip

/-- The sub-register, present on every page, that selects the page. -/
def pageRegister : UInt8 :=
  1

/-- A run of registers that lie on one page. -/
structure Piece where
  address : UInt16
  count : Nat
deriving DecidableEq

def pieces (address : UInt16) (count : Nat) : List Piece :=
  if count = 0 then []
  else
    let onPage := min count (0x100 - (lowByte address).toNat)
    { address, count := onPage } :: pieces (address + UInt16.ofNat onPage) (count - onPage)
termination_by count
decreasing_by
  have bound := (lowByte address).toNat_lt
  omega

end ClockBoard.Chip
