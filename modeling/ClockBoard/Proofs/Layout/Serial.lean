import Mathlib.Data.List.Basic
import Mathlib.Data.Nat.Bitwise
import ClockBoard.Layout.Basic

/-!
Records on their way through bytes. A word is read by taking its low bytes for those of the record,
and written by joining the bytes of the record; both ways could fail, for bytes must be as many as
the layout says.

The main statements say that a layout whose fields lie in its bytes never fails, and that the bytes
lead to the same words and records as the fields themselves.
-/

namespace ClockBoard.Layout

variable {α : Type}

def serialize (layout : Layout α) (record : α) : Except SizeMismatch UInt32 := do
  let bytes ← layout.pack record layout.bytes
  return UInt32.ofNat (ofBytes bytes)

def deserialize (layout : Layout α) (word : UInt32) : Except SizeMismatch α :=
  layout.unpack ((bytesOf 4 word.toNat).drop (4 - layout.bytes))

/-- Whether the fields of a layout lie in its bytes, and these in a word. -/
structure Fits (layout : Layout α) : Prop where
  bytes : layout.bytes ≤ 4
  fields : ∀ field ∈ layout.fields, field.low + field.width ≤ 8 * layout.bytes

/-! ## Bytes -/

theorem length_bytesOf (count value : Nat) : (bytesOf count value).length = count := by
  induction count generalizing value with
  | zero => rfl
  | succ count induction => simp [bytesOf, induction]

theorem ofBytes_bytesOf (count value : Nat) :
    ofBytes (bytesOf count value) = value % 256 ^ count := by
  induction count generalizing value with
  | zero => simp [bytesOf, ofBytes, Nat.mod_one]
  | succ count induction =>
      have joined : ofBytes (bytesOf (count + 1) value) =
          ofBytes (bytesOf count (value / 256)) * 256 + value % 256 := by
        simp [bytesOf, ofBytes, UInt8.toNat_ofNat']
      rw [joined, induction, Nat.pow_succ', Nat.mod_mul]
      omega

theorem drop_bytesOf (high low value : Nat) :
    (bytesOf (high + low) value).drop high = bytesOf low value := by
  induction low generalizing value with
  | zero => exact List.drop_of_length_le (length_bytesOf _ _).le
  | succ low induction =>
      have within : high ≤ (bytesOf (high + low) (value / 256)).length := by
        rw [length_bytesOf]
        omega
      rw [← Nat.add_assoc, bytesOf, List.drop_append_of_le_length within, induction, bytesOf]

theorem pow_bytes (count : Nat) : 256 ^ count = 2 ^ (8 * count) := by
  rw [Nat.pow_mul]

/-! ## Fields -/

theorem Field.extract_mod {field : Field α} {bits : Nat} (within : field.low + field.width ≤ bits)
    (word : Nat) : field.extract (word % 2 ^ bits) = field.extract word := by
  apply Nat.eq_of_testBit_eq
  intro index
  simp only [Field.extract, Field.capacity, Nat.one_shiftLeft, Nat.testBit_mod_two_pow,
    Nat.testBit_shiftRight]
  by_cases inside : index < field.width
  · have below : field.low + index < bits := by omega
    simp [inside, below]
  · simp [inside]

theorem Field.place_lt {field : Field α} {bits : Nat} (within : field.low + field.width ≤ bits)
    (record : α) : field.place record < 2 ^ bits := by
  have small : field.get record % field.capacity < 2 ^ field.width := by
    rw [Field.capacity, Nat.one_shiftLeft]
    exact Nat.mod_lt _ (Nat.two_pow_pos _)
  calc field.place record
    _ = (field.get record % field.capacity) * 2 ^ field.low := Nat.shiftLeft_eq _ _
    _ < 2 ^ field.width * 2 ^ field.low := Nat.mul_lt_mul_of_pos_right small (Nat.two_pow_pos _)
    _ = 2 ^ (field.low + field.width) := by rw [← Nat.pow_add, Nat.add_comm]
    _ ≤ 2 ^ bits := Nat.pow_le_pow_right (by decide) within

variable {layout : Layout α}

theorem Fits.decode_mod (fits : layout.Fits) (word : Nat) :
    layout.decode (word % 2 ^ (8 * layout.bytes)) = layout.decode word := by
  apply List.foldl_ext
  intro record field member
  rw [Field.extract_mod (fits.fields field member)]

theorem Fits.encode_lt (fits : layout.Fits) (record : α) :
    layout.encode record < 2 ^ (8 * layout.bytes) := by
  apply List.foldlRecOn (motive := fun word => word < 2 ^ (8 * layout.bytes))
  · exact Nat.two_pow_pos _
  · intro word small field member
    exact Nat.or_lt_two_pow small (Field.place_lt (fits.fields field member) record)

/-! ## Words -/

theorem Fits.serialize (fits : layout.Fits) (record : α) :
    layout.serialize record = .ok (layout.toWord record) := by
  have whole : ofBytes (bytesOf layout.bytes (layout.encode record)) = layout.encode record := by
    rw [ofBytes_bytesOf, pow_bytes]
    exact Nat.mod_eq_of_lt (fits.encode_lt record)
  have packed : layout.pack record layout.bytes =
      .ok (bytesOf layout.bytes (layout.encode record)) := by
    simp [pack, checkSize, bind, Except.bind, pure, Except.pure]
  rw [Layout.serialize, packed]
  exact congrArg (fun word => Except.ok (UInt32.ofNat word)) whole

theorem Fits.deserialize (fits : layout.Fits) (word : UInt32) :
    layout.deserialize word = .ok (layout.ofWord word) := by
  have four : 4 - layout.bytes + layout.bytes = 4 := Nat.sub_add_cancel fits.bytes
  have low : (bytesOf 4 word.toNat).drop (4 - layout.bytes) =
      bytesOf layout.bytes word.toNat := by
    have dropped := drop_bytesOf (4 - layout.bytes) layout.bytes word.toNat
    rwa [four] at dropped
  have unpacked : layout.unpack (bytesOf layout.bytes word.toNat) =
      .ok (layout.decode (ofBytes (bytesOf layout.bytes word.toNat))) := by
    simp [unpack, checkSize, length_bytesOf, bind, Except.bind, pure, Except.pure]
  rw [Layout.deserialize, low, unpacked, ofBytes_bytesOf, pow_bytes, fits.decode_mod, ofWord]

end ClockBoard.Layout
