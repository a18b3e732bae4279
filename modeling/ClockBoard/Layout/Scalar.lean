import ClockBoard.Layout.Basic

/-!
Layouts of plain numbers and truth values. A number narrower than a word lies in its low bits, and
reading one drops the bits above.
-/

namespace ClockBoard.Layout

def whole {α : Type} (bytes : Nat) (get : α → Nat) (ofNat : Nat → α) : Layout α where
  bytes
  blank := ofNat 0
  fields :=
    [ { name := "value", low := 0, width := 8 * bytes, get, set := fun value _ => ofNat value } ]

def uint8 : Layout UInt8 :=
  whole 1 UInt8.toNat UInt8.ofNat

def uint16 : Layout UInt16 :=
  whole 2 UInt16.toNat UInt16.ofNat

def uint32 : Layout UInt32 :=
  whole 4 UInt32.toNat UInt32.ofNat

def bool : Layout Bool where
  bytes := 1
  blank := false
  fields := [.flag "value" 0 id fun value _ => value]

example : uint8.ofWord 0x123456AB = 0xAB := by decide
example : bool.ofWord 0xFFFFFFFE = false := by decide

end ClockBoard.Layout
