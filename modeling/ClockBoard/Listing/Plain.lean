import ClockBoard.Listing.Line

/-!
A plain listing is a header with data lines below it, up to the first blank line or the end of the
text. Comments may stand anywhere, and what follows the blank line is not looked at.
-/

namespace ClockBoard.Listing

def plainBody : List NumberedLine → Except Error (List Assignment)
  | [] => .ok []
  | line :: rest =>
      match line.kind with
      | .blank => .ok []
      | .sectionStart _ | .sectionEnd _ | .comment => plainBody rest
      | .header | .data => do
          let assignment ← parseAssignment line
          return assignment :: (← plainBody rest)

def plainLines : List NumberedLine → Except Error (List Assignment)
  | [] => .error .missingHeader
  | line :: rest =>
      match line.kind with
      | .blank | .sectionStart _ | .sectionEnd _ | .comment => plainLines rest
      | .header => plainBody rest
      | .data => .error (.dataBeforeMarker line.number)

def parsePlain (text : String) : Except Error (List Assignment) :=
  plainLines (linesOf text)

end ClockBoard.Listing
