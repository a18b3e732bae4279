import ClockBoard.Listing.Section

/-!
The listing of a clock synthesizer has three sections that count: a preamble, after which the chip
has to settle, its main registers, and a postamble. Their order in the text does not matter, and
sections with other names are passed over.
-/

namespace ClockBoard.Listing

def preambleName : String :=
  "preamble"

def registersName : String :=
  "registers"

def postambleName : String :=
  "postamble"

/-- The names of the sections that count, in the order of their upload. -/
def requiredNames : List String :=
  [preambleName, registersName, postambleName]

structure Sectioned where
  preamble : List Assignment
  registers : List Assignment
  postamble : List Assignment
deriving DecidableEq

namespace Sectioned

def length (listing : Sectioned) : Nat :=
  listing.preamble.length + listing.registers.length + listing.postamble.length

def isEmpty (listing : Sectioned) : Bool :=
  listing.length == 0

def firstRepeated? (seen : List String) : List Section → Option String
  | [] => none
  | candidate :: rest =>
      if candidate.name ∉ requiredNames then firstRepeated? seen rest
      else if candidate.name ∈ seen then some candidate.name
      else firstRepeated? (candidate.name :: seen) rest

def pick (sections : List Section) (name : String) : Except Error (List Assignment) :=
  match sections.find? fun candidate => candidate.name == name with
  | some found => .ok found.assignments
  | none => .error (.missingSection name)

def ofSections (sections : List Section) : Except Error Sectioned :=
  match firstRepeated? [] sections with
  | some name => .error (.duplicateSection name)
  | none => do
      let preamble ← pick sections preambleName
      let registers ← pick sections registersName
      let postamble ← pick sections postambleName
      return { preamble, registers, postamble }

end Sectioned

def parseSectioned (text : String) : Except Error Sectioned := do
  Sectioned.ofSections (← parseSections text)

end ClockBoard.Listing
