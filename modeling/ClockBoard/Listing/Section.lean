import ClockBoard.Listing.Line

/-!
A sectioned listing encloses its data lines in named sections. Sections do not nest, and comments,
headers and blank lines may stand anywhere.
-/

namespace ClockBoard.Listing

structure Section where
  name : String
  assignments : List Assignment
deriving DecidableEq

def Section.add (opened : Section) (assignment : Assignment) : Section :=
  { opened with assignments := opened.assignments ++ [assignment] }

def sectionLines (opened? : Option Section) : List NumberedLine → Except Error (List Section)
  | [] =>
      match opened? with
      | none => .ok []
      | some opened => .error (.unterminatedSection opened.name)
  | line :: rest =>
      match line.kind, opened? with
      | .blank, _ | .comment, _ | .header, _ => sectionLines opened? rest
      | .sectionStart name, none => sectionLines (some { name, assignments := [] }) rest
      | .sectionStart name, some opened =>
          .error (.nestedSection line.number name opened.name)
      | .sectionEnd name, none => .error (.unmatchedEnd line.number name)
      | .sectionEnd name, some opened =>
          if opened.name = name then do
            return opened :: (← sectionLines none rest)
          else
            .error (.mismatchedEnd line.number opened.name name)
      | .data, none => .error (.dataBeforeMarker line.number)
      | .data, some opened => do
          let assignment ← parseAssignment line
          sectionLines (some (opened.add assignment)) rest

def parseSections (text : String) : Except Error (List Section) :=
  sectionLines none (linesOf text)

end ClockBoard.Listing
