/-!
A word of two bytes is the pair of its high and its low byte. Clock dividers are kept as such
pairs, and so are the addresses of register spaces that are larger than a page.
-/

namespace ClockBoard

def highByte (word : UInt16) : UInt8 :=
  UInt8.ofNat (word.toNat / 256)

def lowByte (word : UInt16) : UInt8 :=
  UInt8.ofNat word.toNat

def joinBytes (high low : UInt8) : UInt16 :=
  UInt16.ofNat (high.toNat * 256 + low.toNat)

theorem toNat_highByte (word : UInt16) : (highByte word).toNat = word.toNat / 256 := by
  have bound := word.toNat_lt
  simp only [highByte, UInt8.toNat_ofNat']
  omega

theorem toNat_lowByte (word : UInt16) : (lowByte word).toNat = word.toNat % 256 := by
  simp [lowByte]

theorem toNat_joinBytes (high low : UInt8) :
    (joinBytes high low).toNat = high.toNat * 256 + low.toNat := by
  have highBound := high.toNat_lt
  have lowBound := low.toNat_lt
  simp only [joinBytes, UInt16.toNat_ofNat']
  omega

@[simp] theorem joinBytes_highByte_lowByte (word : UInt16) :
    joinBytes (highByte word) (lowByte word) = word := by
  apply UInt16.toNat_inj.mp
  rw [toNat_joinBytes, toNat_highByte, toNat_lowByte]
  omega

@[simp] theorem highByte_joinBytes (high low : UInt8) : highByte (joinBytes high low) = high := by
  apply UInt8.toNat_inj.mp
  have bound := low.toNat_lt
  rw [toNat_highByte, toNat_joinBytes]
  omega

@[simp] theorem lowByte_joinBytes (high low : UInt8) : lowByte (joinBytes high low) = low := by
  apply UInt8.toNat_inj.mp
  have bound := low.toNat_lt
  rw [toNat_lowByte, toNat_joinBytes]
  omega

end ClockBoard
