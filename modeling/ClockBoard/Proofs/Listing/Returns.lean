import Mathlib.Data.Finset.Basic
import ClockBoard.Listing.Plain
import ClockBoard.Listing.Sectioned
import ClockBoard.Proofs.Listing.Line

/-!
Line feeds with and without a carriage return before them, which may be mixed in one text.

The main statement says that carriage returns put before any of the line feeds that have none change
nothing of what a text is read as, neither the data of a text in order nor the error of another.
-/

namespace ClockBoard.Listing

/-- A text from a place on, with a carriage return before each character at a chosen place. -/
def returnsFrom (chosen : Finset Nat) : (place : Nat) → (text : List Char) → List Char
  | _, [] => []
  | place, char :: rest =>
      (if place ∈ chosen then ['\r', char] else [char]) ++ returnsFrom chosen (place + 1) rest

def withReturns (chosen : Finset Nat) (text : String) : String :=
  String.ofList (returnsFrom chosen 0 text.toList)

/-- Whether at a place of a text is a line feed that comes after no carriage return. -/
def BareFeed (text : List Char) (place : Nat) : Prop :=
  text[place]? = some '\n' ∧ (text.take place).getLast? ≠ some '\r'

instance (text : List Char) : DecidablePred (BareFeed text) :=
  fun _ => inferInstanceAs (Decidable (_ ∧ _))

/-- Whether all chosen places from one on are those of such line feeds. The text there goes on
below a line that has begun. -/
def BareFrom (chosen : Finset Nat) (place : Nat) (line text : List Char) : Prop :=
  ∀ index, place + index ∈ chosen → BareFeed (line ++ text) (line.length + index)

namespace BareFrom

variable {chosen : Finset Nat} {place : Nat} {char : Char} {line rest : List Char}

theorem here (bare : BareFrom chosen place line (char :: rest)) (member : place ∈ chosen) :
    char = '\n' ∧ line.getLast? ≠ some '\r' := by
  rcases bare 0 member with ⟨feed, alone⟩
  rw [Nat.add_zero, List.getElem?_append_right (Nat.le_refl _), Nat.sub_self] at feed
  rw [Nat.add_zero, List.take_left] at alone
  exact ⟨Option.some.inj feed, alone⟩

theorem along (bare : BareFrom chosen place line (char :: rest)) :
    BareFrom chosen (place + 1) (line ++ [char]) rest := by
  intro index member
  have next : place + (index + 1) ∈ chosen := by
    rwa [Nat.add_comm index, ← Nat.add_assoc]
  have moved : (line ++ [char]).length + index = line.length + (index + 1) := by
    rw [List.length_append, List.length_singleton]
    omega
  rw [List.append_assoc, moved]
  exact bare (index + 1) next

theorem below (bare : BareFrom chosen place line ('\n' :: rest)) :
    BareFrom chosen (place + 1) [] rest := by
  intro index member
  have moved : ([] : List Char).length + index = index := Nat.zero_add index
  rcases bare.along index member with ⟨feed, alone⟩
  rw [List.getElem?_append_right (Nat.le_add_right _ _), Nat.add_sub_cancel_left] at feed
  rw [List.take_length_add_append, List.append_assoc, List.getLast?_append] at alone
  rw [moved, List.nil_append]
  apply And.intro feed
  intro returned
  simp [List.getLast?_cons, returned] at alone

end BareFrom

variable {chosen : Finset Nat}

theorem splitLines_returnsFrom (text line : List Char) (place : Nat) (single : '\n' ∉ line)
    (bare : BareFrom chosen place line text) :
    (splitLines (line ++ returnsFrom chosen place text)).map stripReturn =
      (splitLines (line ++ text)).map stripReturn := by
  induction text generalizing line place with
  | nil => rfl
  | cons char rest induction =>
      by_cases feed : char = '\n'
      · subst feed
        have later := induction [] (place + 1) List.not_mem_nil bare.below
        rw [List.nil_append, List.nil_append] at later
        rw [splitLines_line single, List.map_cons, ← later, returnsFrom]
        by_cases member : place ∈ chosen
        · have whole : line ++ (['\r', '\n'] ++ returnsFrom chosen (place + 1) rest) =
              (line ++ ['\r']) ++ '\n' :: returnsFrom chosen (place + 1) rest := by
            simp
          rw [if_pos member, whole, splitLines_line (by simp [single]), List.map_cons,
            stripReturn_return, stripReturn, if_neg (bare.here member).2]
        · rw [if_neg member, List.singleton_append, splitLines_line single, List.map_cons]
      · have kept : place ∉ chosen := fun member => feed (bare.here member).1
        have longer := induction (line ++ [char]) (place + 1) (by simp [single, Ne.symm feed])
          bare.along
        rw [List.append_assoc, List.append_assoc] at longer
        rw [returnsFrom, if_neg kept]
        exact longer

theorem linesOf_withReturns {text : String}
    (bare : ∀ place ∈ chosen, BareFeed text.toList place) :
    linesOf (withReturns chosen text) = linesOf text := by
  have whole : BareFrom chosen 0 [] text.toList := by
    intro index member
    simpa using bare index (by simpa using member)
  have same := splitLines_returnsFrom text.toList [] 0 List.not_mem_nil whole
  rw [linesOf, linesOf, withReturns, String.toList_ofList]
  exact congrArg (numberFrom 1) same

/-- A text is read alike whatever its lines end with. -/
theorem parse_withReturns (text : String) (chosen : Finset Nat)
    (bare : ∀ place ∈ chosen, BareFeed text.toList place) :
    parsePlain (withReturns chosen text) = parsePlain text ∧
      parseSections (withReturns chosen text) = parseSections text ∧
      parseSectioned (withReturns chosen text) = parseSectioned text := by
  have lines := linesOf_withReturns bare
  have sections : parseSections (withReturns chosen text) = parseSections text :=
    congrArg (sectionLines none) lines
  refine ⟨congrArg plainLines lines, sections, ?_⟩
  rw [parseSectioned, parseSectioned, sections]

theorem parse_withReturns_mixed :
    let text := "Address,Data\n1,2\r\n3\n"
    withReturns {12, 19} text = "Address,Data\r\n1,2\r\n3\r\n" ∧
      parsePlain (withReturns {12, 19} text) = .error (.malformedLine 3 "3") ∧
      parseSections (withReturns {12, 19} text) = .error (.dataBeforeMarker 2) := by
  intro text
  have bare : ∀ place ∈ ({12, 19} : Finset Nat), BareFeed text.toList place := by decide
  rcases parse_withReturns text {12, 19} bare with ⟨plain, sections, _⟩
  rw [plain, sections]
  exact ⟨by decide, by decide, by decide⟩

end ClockBoard.Listing
