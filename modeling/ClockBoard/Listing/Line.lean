import ClockBoard.Listing.Assignment
import ClockBoard.Listing.Error
import ClockBoard.Text.Blank
import ClockBoard.Text.Numeral

/-!
The lines of a register listing. A line is blank, a comment, a marker of the start or end of a
section, a header, or data. Within a line only spaces and tabs separate; a line with nothing but
blanks of any kind is blank.
-/

namespace ClockBoard.Listing

/-! ## Lines of a text -/

def splitLines : List Char → List (List Char)
  | [] => [[]]
  | '\n' :: rest => [] :: splitLines rest
  | char :: rest =>
      match splitLines rest with
      | [] => [[char]]
      | line :: lines => (char :: line) :: lines

/-- Drop one carriage return from the end of a line. -/
def stripReturn (line : List Char) : List Char :=
  if line.getLast? = some '\r' then line.dropLast else line

structure NumberedLine where
  number : Nat
  content : List Char
deriving DecidableEq

def numberFrom (number : Nat) : List (List Char) → List NumberedLine
  | [] => []
  | content :: rest => { number, content } :: numberFrom (number + 1) rest

def linesOf (text : String) : List NumberedLine :=
  numberFrom 1 ((splitLines text.toList).map stripReturn)

/-! ## Grammar of a line -/

def isSpace (char : Char) : Bool :=
  char == ' ' || char == '\t'

def skipSpaces (text : List Char) : List Char :=
  text.dropWhile isSpace

def skipSpaces? : List Char → Option (List Char)
  | char :: rest => if isSpace char then some (skipSpaces rest) else none
  | [] => none

def afterWord? : (word text : List Char) → Option (List Char)
  | [], text => some text
  | _ :: _, [] => none
  | expected :: word, char :: text => if char = expected then afterWord? word text else none

def dropHexMarker : List Char → List Char
  | '0' :: 'x' :: digits => digits
  | '0' :: 'X' :: digits => digits
  | digits => digits

/-- Read a hexadecimal number up to a limit off the front of a text, and return what follows its
last digit. Once there is a marker, digits have to follow it. -/
def hexNumber? (limit : Nat) (text : List Char) : Option (Nat × List Char) := do
  let text := dropHexMarker text
  let number ← Text.natural? 16 (text.takeWhile Text.isHexDigit)
  if number ≤ limit then some (number, text.dropWhile Text.isHexDigit) else none

def assignment? (line : List Char) : Option Assignment := do
  let (address, rest) ← hexNumber? 0xFFFF (skipSpaces line)
  let rest ← afterWord? [','] (skipSpaces rest)
  let (value, rest) ← hexNumber? 0xFF (skipSpaces rest)
  if skipSpaces rest = [] then
    some { address := UInt16.ofNat address, value := UInt8.ofNat value }
  else
    none

def parseAssignment (line : NumberedLine) : Except Error Assignment :=
  match assignment? line.content with
  | some assignment => .ok assignment
  | none => .error (.malformedLine line.number (String.ofList line.content))

def isHeader (line : List Char) : Bool :=
  match afterWord? "Address,Data".toList (skipSpaces line) with
  | some rest => skipSpaces rest == []
  | none => false

/-- The name of the section whose edge a line marks. Blanks after the name do not count. -/
def markedName? (edge : String) (line : List Char) : Option String := do
  let rest ← afterWord? ['#'] line
  let rest ← afterWord? edge.toList (skipSpaces rest)
  let rest ← skipSpaces? rest
  let rest ← afterWord? "configuration".toList rest
  let rest ← skipSpaces? rest
  return String.ofList (Text.trimEnd rest)

inductive LineKind
  | blank
  | sectionStart (name : String)
  | sectionEnd (name : String)
  | comment
  | header
  | data
deriving DecidableEq

def LineKind.ofLine (line : List Char) : LineKind :=
  if line.all Text.isBlank then .blank
  else if let some name := markedName? "Start" line then .sectionStart name
  else if let some name := markedName? "End" line then .sectionEnd name
  else if line.head? = some '#' then .comment
  else if isHeader line then .header
  else .data

def NumberedLine.kind (line : NumberedLine) : LineKind :=
  .ofLine line.content

end ClockBoard.Listing
