import ClockBoard.Layout.Basic

/-!
Layouts wider than a byte, with fields that cross byte boundaries. No peripheral register is this
wide: their sub-registers hold one byte each, so such a layout can be kept in a word of the board
but not in a peripheral.
-/

namespace ClockBoard

/-- A layout of two bytes with a field across their boundary. -/
structure Wide16 where
  top : Bool
  mid : UInt8
  bottom : Bool
deriving DecidableEq

def Wide16.layout : Layout Wide16 where
  bytes := 2
  blank := { top := false, mid := 0, bottom := false }
  fields :=
    [ .flag "top" 15 top fun value record => { record with top := value },
      { name := "mid", low := 4, width := 8, get := fun record => record.mid.toNat,
        set := fun value record => { record with mid := UInt8.ofNat value } },
      .flag "bottom" 0 bottom fun value record => { record with bottom := value } ]

def Wide16.placed : Layout.Placed Wide16 where
  layout := layout
  register := 0x10

structure Wide32 where
  high : UInt16
  mid : UInt8
  low : UInt8
deriving DecidableEq

def Wide32.layout : Layout Wide32 where
  bytes := 4
  blank := { high := 0, mid := 0, low := 0 }
  fields :=
    [ { name := "high", low := 16, width := 16, get := fun record => record.high.toNat,
        set := fun value record => { record with high := UInt16.ofNat value } },
      { name := "mid", low := 8, width := 8, get := fun record => record.mid.toNat,
        set := fun value record => { record with mid := UInt8.ofNat value } },
      { name := "low", low := 0, width := 8, get := fun record => record.low.toNat,
        set := fun value record => { record with low := UInt8.ofNat value } } ]

def Wide32.placed : Layout.Placed Wide32 where
  layout := layout
  register := 0x20

example : Wide16.layout.toWord { top := true, mid := 0xA5, bottom := true } = 0x8A51 := by decide
example : Wide16.layout.declared = 0x8FF1 := by decide

end ClockBoard
