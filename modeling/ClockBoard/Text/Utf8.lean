/-!
Reading bytes as UTF-8 text when they need not be text. Each longest run of bytes that begins a
character and cannot complete it counts as one replacement character, as does each byte that
begins none.
-/

namespace ClockBoard.Text.Utf8

def replacement : Char :=
  '\uFFFD'

/-- A character of which some bytes have come: how many are missing, the bounds of the next one,
and the bits read so far. -/
structure Begun where
  missing : Nat
  low : UInt8
  high : UInt8
  bits : Nat

inductive Lead
  | whole (char : Char)
  | begun (character : Begun)
  | invalid

/-- Bounds narrower than those of a continuation byte keep out overlong forms, surrogates and
numbers past the last code point. -/
def Lead.ofByte (byte : UInt8) : Lead :=
  let begin (missing : Nat) (low high : UInt8) (bits : UInt8) :=
    .begun { missing, low, high, bits := (byte &&& bits).toNat }
  if byte < 0x80 then .whole (Char.ofNat byte.toNat)
  else if byte < 0xC2 then .invalid
  else if byte < 0xE0 then begin 1 0x80 0xBF 0x1F
  else if byte = 0xE0 then begin 2 0xA0 0xBF 0x0F
  else if byte = 0xED then begin 2 0x80 0x9F 0x0F
  else if byte < 0xF0 then begin 2 0x80 0xBF 0x0F
  else if byte = 0xF0 then begin 3 0x90 0xBF 0x07
  else if byte < 0xF4 then begin 3 0x80 0xBF 0x07
  else if byte = 0xF4 then begin 3 0x80 0x8F 0x07
  else .invalid

def start (byte : UInt8) : List Char × Option Begun :=
  match Lead.ofByte byte with
  | .whole char => ([char], none)
  | .begun begun => ([], some begun)
  | .invalid => ([replacement], none)

def step (begun? : Option Begun) (byte : UInt8) : List Char × Option Begun :=
  match begun? with
  | none => start byte
  | some begun =>
      if begun.low ≤ byte ∧ byte ≤ begun.high then
        let bits := begun.bits * 64 + (byte &&& 0x3F).toNat
        if begun.missing ≤ 1 then
          ([Char.ofNat bits], none)
        else
          ([], some { missing := begun.missing - 1, low := 0x80, high := 0xBF, bits })
      else
        let started := start byte
        (replacement :: started.1, started.2)

def decodeFrom (begun? : Option Begun) : List UInt8 → List Char
  | [] => if begun?.isSome then [replacement] else []
  | byte :: rest =>
      let stepped := step begun? byte
      stepped.1 ++ decodeFrom stepped.2 rest

def decode (bytes : List UInt8) : List Char :=
  decodeFrom none bytes

example : decode [0x61, 0xC3, 0xA9, 0xE2, 0x82, 0xAC] = ['a', 'é', '€'] := by decide
example : decode [0xE2, 0x82, 0x61, 0xC0, 0xF0, 0x9F] =
    [replacement, 'a', replacement, replacement] := by decide

end ClockBoard.Text.Utf8
