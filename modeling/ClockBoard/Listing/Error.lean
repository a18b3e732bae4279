/-!
What can be wrong with the text of a register listing, or with the file that should hold it. Lines
count from one.
-/

namespace ClockBoard.Listing

inductive FileError
  | notFound
  | invalidData
deriving DecidableEq

def FileError.message : FileError → String
  | .notFound => "no such file"
  | .invalidData => "the file is not UTF-8 text"

inductive Error
  | missingHeader
  | dataBeforeMarker (line : Nat)
  | malformedLine (line : Nat) (content : String)
  | nestedSection (line : Nat) (name opened : String)
  | mismatchedEnd (line : Nat) (expected found : String)
  | unmatchedEnd (line : Nat) (name : String)
  | unterminatedSection (name : String)
  | missingSection (name : String)
  | duplicateSection (name : String)
  | file (error : FileError)
deriving DecidableEq

private def atLine (line : Nat) (text : String) : String :=
  "Line " ++ toString line ++ ": " ++ text

private def quoted (text : String) : String :=
  "`" ++ text ++ "`"

def Error.message : Error → String
  | .missingHeader => "No `Address,Data` header found"
  | .dataBeforeMarker line => atLine line "register data before a header or section marker"
  | .malformedLine line content => atLine line ("malformed register entry " ++ quoted content)
  | .nestedSection line name opened =>
      atLine line ("section " ++ quoted name ++ " started inside open section " ++ quoted opened)
  | .mismatchedEnd line expected found =>
      atLine line
        ("end of section " ++ quoted found ++ " while section " ++ quoted expected ++ " is open")
  | .unmatchedEnd line name =>
      atLine line ("end of section " ++ quoted name ++ " without a matching start")
  | .unterminatedSection name => "Section " ++ quoted name ++ " is never closed"
  | .missingSection name => "Required section " ++ quoted name ++ " is missing"
  | .duplicateSection name => "Section " ++ quoted name ++ " appears more than once"
  | .file error => error.message

end ClockBoard.Listing
