/-!
Blank characters are those of the Unicode property White_Space. Trimming drops blanks at the ends
of a text and nothing else.
-/

namespace ClockBoard.Text

/-- The code point ranges of the property White_Space, both ends included. -/
def blankRanges : List (Nat × Nat) :=
  [(0x09, 0x0D), (0x20, 0x20), (0x85, 0x85), (0xA0, 0xA0), (0x1680, 0x1680), (0x2000, 0x200A),
    (0x2028, 0x2029), (0x202F, 0x202F), (0x205F, 0x205F), (0x3000, 0x3000)]

def isBlank (char : Char) : Bool :=
  blankRanges.any fun range => range.1 ≤ char.toNat && char.toNat ≤ range.2

def dropEndWhile (condition : Char → Bool) (text : List Char) : List Char :=
  (text.reverse.dropWhile condition).reverse

def trimEnd (text : List Char) : List Char :=
  dropEndWhile isBlank text

def trim (text : List Char) : List Char :=
  trimEnd (text.dropWhile isBlank)

example : (blankRanges.map fun range => range.2 + 1 - range.1).sum = 25 := rfl

end ClockBoard.Text
