import ClockBoard.Listing.Section
import ClockBoard.Proofs.Text.Numeral

/-!
How listings may be written. Nothing here looks at how they are read: a document is made up of
lines, which are made up of the words of the format with spaces between them and of numbers in any
spelling.
-/

namespace ClockBoard.Listing

/-! ## Parts of a line -/

structure Gap where
  text : List Char
  spaces : ∀ char ∈ text, char = ' ' ∨ char = '\t'

inductive HexMarker
  | none
  | lower
  | upper

def HexMarker.text : HexMarker → List Char
  | none => []
  | lower => ['0', 'x']
  | upper => ['0', 'X']

structure Numeral (number : Nat) where
  marker : HexMarker
  digits : List Char
  spells : Text.Spells digits number

def Numeral.text {number : Nat} (numeral : Numeral number) : List Char :=
  numeral.marker.text ++ numeral.digits

/-! ## Lines -/

structure Row where
  assignment : Assignment
  indent : Gap
  address : Numeral assignment.address.toNat
  beforeComma : Gap
  afterComma : Gap
  value : Numeral assignment.value.toNat
  trailing : Gap

def Row.text (row : Row) : List Char :=
  row.indent.text ++ row.address.text ++ row.beforeComma.text ++ [','] ++ row.afterComma.text ++
    row.value.text ++ row.trailing.text

structure Comment where
  rest : List Char
  single : '\n' ∉ rest

def Comment.text (comment : Comment) : List Char :=
  '#' :: comment.rest

structure BlankLine where
  text : List Char
  blank : ∀ char ∈ text, Text.isBlank char = true
  single : '\n' ∉ text

structure Header where
  indent : Gap
  trailing : Gap

def Header.text (header : Header) : List Char :=
  header.indent.text ++ "Address,Data".toList ++ header.trailing.text

def Marks (edge : String) (line : List Char) : Prop :=
  ∃ (before between after : Gap) (rest : List Char), between.text ≠ [] ∧ after.text ≠ [] ∧
    line = '#' :: (before.text ++ edge.toList ++ between.text ++ "configuration".toList ++
      after.text ++ rest)

/-- A line that marks an edge of the section with a name. Blanks behind the name are no part of
it. -/
structure EdgeLine (edge name : String) where
  before : Gap
  between : Gap
  after : Gap
  trailing : List Char
  apart : between.text ≠ [] ∧ after.text ≠ []
  unspaced : ∀ char, name.toList.head? = some char → char ≠ ' ' ∧ char ≠ '\t'
  trimmed : ∀ char, name.toList.getLast? = some char → Text.isBlank char = false
  blank : ∀ char ∈ trailing, Text.isBlank char = true

def EdgeLine.text {edge name : String} (line : EdgeLine edge name) : List Char :=
  '#' :: (line.before.text ++ edge.toList ++ line.between.text ++ "configuration".toList ++
    line.after.text ++ name.toList ++ line.trailing)

inductive Ending
  | feed
  | returnFeed

def Ending.text : Ending → List Char
  | feed => ['\n']
  | returnFeed => ['\r', '\n']

abbrev Line : Type :=
  List Char × Ending

def joinLines (lines : List Line) : String :=
  String.ofList (lines.flatMap fun line => line.1 ++ line.2.text)

/-! ## Plain listings -/

inductive FrontLine
  | comment (comment : Comment)
  | blank (blank : BlankLine)

def FrontLine.text : FrontLine → List Char
  | .comment written => written.text
  | .blank written => written.text

inductive BodyLine
  | comment (comment : Comment)
  | row (row : Row)

namespace BodyLine

def text : BodyLine → List Char
  | .comment written => written.text
  | .row written => written.text

def assignment? : BodyLine → Option Assignment
  | .comment _ => none
  | .row written => some written.assignment

end BodyLine

structure PlainDocument where
  front : List (FrontLine × Ending)
  header : Header × Ending
  body : List (BodyLine × Ending)

namespace PlainDocument

def assignments (document : PlainDocument) : List Assignment :=
  document.body.filterMap fun line => line.1.assignment?

def text (document : PlainDocument) : String :=
  joinLines <|
    document.front.map (Prod.map FrontLine.text id) ++
      (document.header.1.text, document.header.2) ::
        document.body.map (Prod.map BodyLine.text id)

end PlainDocument

/-! ## Sectioned listings -/

inductive Filler
  | blank (blank : BlankLine)
  | header (header : Header)
  | comment (comment : Comment)
      (unmarked : ¬Marks "Start" comment.text ∧ ¬Marks "End" comment.text)

def Filler.text : Filler → List Char
  | .blank written => written.text
  | .header written => written.text
  | .comment written _ => written.text

inductive InnerLine
  | filler (filler : Filler)
  | row (row : Row)

namespace InnerLine

def text : InnerLine → List Char
  | .filler written => written.text
  | .row written => written.text

def assignment? : InnerLine → Option Assignment
  | .filler _ => none
  | .row written => some written.assignment

end InnerLine

structure SectionName where
  name : String
  single : '\n' ∉ name.toList
  unspaced : ∀ char, name.toList.head? = some char → char ≠ ' ' ∧ char ≠ '\t'
  trimmed : ∀ char, name.toList.getLast? = some char → Text.isBlank char = false

/-- A section with the lines above it that belong to none. -/
structure Block where
  above : List (Filler × Ending)
  name : SectionName
  startEnding : Ending
  inner : List (InnerLine × Ending)
  endEnding : Ending

namespace Block

def edgeText (edge : String) (name : SectionName) : List Char :=
  '#' :: ' ' :: (edge.toList ++ " configuration ".toList ++ name.name.toList)

def lines (block : Block) : List Line :=
  block.above.map (Prod.map Filler.text id) ++
    (edgeText "Start" block.name, block.startEnding) ::
      (block.inner.map (Prod.map InnerLine.text id) ++
        [(edgeText "End" block.name, block.endEnding)])

def contents (block : Block) : Section where
  name := block.name.name
  assignments := block.inner.filterMap fun line => line.1.assignment?

end Block

structure SectionedDocument where
  blocks : List Block
  below : List (Filler × Ending)

namespace SectionedDocument

def sections (document : SectionedDocument) : List Section :=
  document.blocks.map Block.contents

def text (document : SectionedDocument) : String :=
  joinLines <|
    document.blocks.flatMap Block.lines ++ document.below.map (Prod.map Filler.text id)

end SectionedDocument

/-! ## Documents for given contents -/

def Gap.none : Gap :=
  { text := [], spaces := nofun }

/-- The shortest spelling in lower case. -/
def Numeral.plain (number : Nat) : Numeral number :=
  { marker := .none, digits := Nat.toDigits 16 number, spells := Text.spells_toDigits number }

def Row.plain (assignment : Assignment) : Row where
  assignment := assignment
  indent := .none
  address := .plain _
  beforeComma := .none
  afterComma := .none
  value := .plain _
  trailing := .none

/-- Any assignments can be written. -/
theorem PlainDocument.assignments_surjective : Function.Surjective PlainDocument.assignments := by
  intro assignments
  refine ⟨{
    front := []
    header := ({ indent := .none, trailing := .none }, .feed)
    body := assignments.map fun assignment => (.row (.plain assignment), .feed) }, ?_⟩
  induction assignments with
  | nil => rfl
  | cons assignment rest induction => exact congrArg (assignment :: ·) induction

theorem Block.exists_contents (name : SectionName) (assignments : List Assignment) :
    ∃ block : Block, block.contents = { name := name.name, assignments } := by
  refine ⟨{
    above := []
    name
    startEnding := .feed
    inner := assignments.map fun assignment => (.row (.plain assignment), .feed)
    endEnding := .feed }, ?_⟩
  induction assignments with
  | nil => rfl
  | cons assignment rest induction =>
      exact congrArg (fun contents => Section.mk name.name (assignment :: contents.assignments))
        induction

/-- Any sections can be written that bear names of sections. -/
theorem SectionedDocument.exists_sections {sections : List Section}
    (named : ∀ written ∈ sections, ∃ name : SectionName, name.name = written.name) :
    ∃ document : SectionedDocument, document.sections = sections := by
  induction sections with
  | nil => exact ⟨{ blocks := [], below := [] }, rfl⟩
  | cons written rest induction =>
      rcases induction fun other member => named other (List.mem_cons_of_mem _ member) with
        ⟨document, later⟩
      rcases named written List.mem_cons_self with ⟨name, own⟩
      rcases Block.exists_contents name written.assignments with ⟨block, contents⟩
      refine ⟨{ document with blocks := block :: document.blocks }, ?_⟩
      rw [sections, List.map_cons, contents, own]
      exact congrArg (written :: ·) later

end ClockBoard.Listing
