/-!
Numerals in base ten and sixteen: the value of a digit, the value of a row of digits, and the
zero-filled hexadecimal text of a number.
-/

namespace ClockBoard.Text

/-- The value of a digit, letters of either case counting from ten. -/
def digitValue? (base : Nat) (char : Char) : Option Nat :=
  let value? :=
    if '0' ≤ char ∧ char ≤ '9' then some (char.toNat - '0'.toNat)
    else if 'a' ≤ char ∧ char ≤ 'z' then some (char.toNat - 'a'.toNat + 10)
    else if 'A' ≤ char ∧ char ≤ 'Z' then some (char.toNat - 'A'.toNat + 10)
    else none
  value?.filter (· < base)

def isHexDigit (char : Char) : Bool :=
  (digitValue? 16 char).isSome

/-- The number a row of digit values stands for, most significant digit first. -/
def ofDigits (base : Nat) (digits : List Nat) : Nat :=
  digits.foldl (fun value digit => value * base + digit) 0

def natural? (base : Nat) (text : List Char) : Option Nat :=
  if text.isEmpty then none else (text.mapM (digitValue? base)).map (ofDigits base)

def signedNatural? (base : Nat) : List Char → Option Nat
  | '+' :: digits => natural? base digits
  | digits => natural? base digits

def hexDigits (width value : Nat) : String :=
  let digits := Nat.toDigits 16 value
  String.ofList (List.replicate (width - digits.length) '0' ++ digits)

def hexText (width value : Nat) : String :=
  "0x" ++ hexDigits width value

example : hexText 2 9 = "0x09" := by decide
example : hexText 4 0x26B = "0x026b" := by decide
example : natural? 16 "0fA".toList = some 250 := by decide

end ClockBoard.Text
