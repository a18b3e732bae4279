import ClockBoard.Listing.Plain
import ClockBoard.Listing.Sectioned

/-!
Listings are kept in files, which have to be there and to hold UTF-8 text.
-/

namespace ClockBoard.Listing

inductive File
  | missing
  | holding (bytes : ByteArray)

def File.text : File → Except Error String
  | .missing => .error (.file .notFound)
  | .holding bytes =>
      match String.fromUTF8? bytes with
      | some text => .ok text
      | none => .error (.file .invalidData)

def readPlain (file : File) : Except Error (List Assignment) := do
  parsePlain (← file.text)

def readSectioned (file : File) : Except Error Sectioned := do
  parseSectioned (← file.text)

end ClockBoard.Listing
