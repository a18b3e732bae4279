/-!
Layouts place the fields of a record in the bits of a register word. A layout lists its fields
from the top of the word down, and every bit that no field claims is written as zero and ignored
when read.

Words are wider than most layouts: a layout of a given number of bytes lies in the low bytes of
the word, most significant byte first.
-/

namespace ClockBoard

structure Layout.Field (α : Type) where
  name : String
  low : Nat
  width : Nat
  get : α → Nat
  set : Nat → α → α

/-- The bits that hold a record, and the record that all-zero bits stand for. -/
structure Layout (α : Type) where
  bytes : Nat
  blank : α
  fields : List (Layout.Field α)

structure Layout.Placed (α : Type) where
  layout : Layout α
  register : UInt8

namespace Layout

variable {α : Type}

namespace Field

def flag (name : String) (bit : Nat) (get : α → Bool) (set : Bool → α → α) : Field α where
  name
  low := bit
  width := 1
  get record := (get record).toNat
  set value := set (value % 2 == 1)

def capacity (field : Field α) : Nat :=
  1 <<< field.width

def mask (field : Field α) : Nat :=
  (field.capacity - 1) <<< field.low

def place (field : Field α) (record : α) : Nat :=
  (field.get record % field.capacity) <<< field.low

def extract (field : Field α) (word : Nat) : Nat :=
  (word >>> field.low) % field.capacity

end Field

def declared (layout : Layout α) : Nat :=
  layout.fields.foldl (fun bits field => bits ||| field.mask) 0

def encode (layout : Layout α) (record : α) : Nat :=
  layout.fields.foldl (fun word field => word ||| field.place record) 0

def decode (layout : Layout α) (word : Nat) : α :=
  layout.fields.foldl (fun record field => field.set (field.extract word) record) layout.blank

def toWord (layout : Layout α) (record : α) : UInt32 :=
  UInt32.ofNat (layout.encode record)

def ofWord (layout : Layout α) (word : UInt32) : α :=
  layout.decode word.toNat

/-! ## Bytes -/

structure SizeMismatch where
  expected : Nat
  actual : Nat
deriving DecidableEq

def SizeMismatch.message (mismatch : SizeMismatch) : String :=
  "BufferSizeMismatch \x7b expected: " ++ toString mismatch.expected ++
    ", actual: " ++ toString mismatch.actual ++ " \x7d"

def checkSize (layout : Layout α) (size : Nat) : Except SizeMismatch Unit :=
  if size = layout.bytes then .ok () else .error { expected := layout.bytes, actual := size }

/-- The bytes of a number, most significant first. -/
def bytesOf : (count : Nat) → (value : Nat) → List UInt8
  | 0, _ => []
  | count + 1, value => bytesOf count (value / 256) ++ [UInt8.ofNat value]

def ofBytes (bytes : List UInt8) : Nat :=
  bytes.foldl (fun value byte => value * 256 + byte.toNat) 0

def pack (layout : Layout α) (record : α) (size : Nat) : Except SizeMismatch (List UInt8) := do
  layout.checkSize size
  return bytesOf layout.bytes (layout.encode record)

def unpack (layout : Layout α) (bytes : List UInt8) : Except SizeMismatch α := do
  layout.checkSize bytes.length
  return layout.decode (ofBytes bytes)

/-! ## Flags -/

def flagsOf (layout : Layout α) (record : α) : List String :=
  (layout.fields.filter fun field => field.get record != 0).map Field.name

def ofFlags (layout : Layout α) (names : List String) : α :=
  (layout.fields.filter fun field => names.contains field.name).foldl
    (fun record field => field.set 1 record) layout.blank

end Layout

end ClockBoard
