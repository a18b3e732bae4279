import ClockBoard.Proofs.Listing.Grammar

/-!
What is written as a data line are two hexadecimal numbers. They may be of any size, but a chip only
has registers with addresses of two bytes and values of one.

The main statement says of every line whether it is taken as data, and as what. A line says one
thing at most, so that a number that is too large is never taken for a smaller one.
-/

namespace ClockBoard.Listing

theorem Numeral.unique {number another : Nat} (one : Numeral number) (two : Numeral another)
    {rest more : List Char} (stops : Stops rest) (stopsToo : Stops more)
    (same : one.text ++ rest = two.text ++ more) : number = another ∧ rest = more := by
  have readOne := hexNumber?_numeral one (Nat.le_max_left number another) stops
  have readTwo := hexNumber?_numeral two (Nat.le_max_right number another) stopsToo
  rw [same, readTwo] at readOne
  cases readOne
  exact ⟨rfl, rfl⟩

/-- Two hexadecimal numbers of any size, with a comma between them. -/
structure NumberPair where
  address : Nat
  value : Nat
  indent : Gap
  first : Numeral address
  beforeComma : Gap
  afterComma : Gap
  second : Numeral value
  trailing : Gap

namespace NumberPair

def back (pair : NumberPair) : List Char :=
  pair.afterComma.text ++ (pair.second.text ++ pair.trailing.text)

def text (pair : NumberPair) : List Char :=
  pair.indent.text ++ (pair.first.text ++ (pair.beforeComma.text ++ ',' :: pair.back))

/-! ## One meaning -/

theorem unambiguous {pair other : NumberPair} (same : pair.text = other.text) :
    pair.address = other.address ∧ pair.value = other.value := by
  have comma (pair : NumberPair) :
      skipSpaces (pair.beforeComma.text ++ ',' :: pair.back) = ',' :: pair.back :=
    skipSpaces_gap _ _
  have fronts := congrArg skipSpaces same
  rw [text, text, skipSpaces_numeral, skipSpaces_numeral] at fronts
  rcases pair.first.unique other.first ((Stops.comma _).gap _) ((Stops.comma _).gap _) fronts with
    ⟨addresses, rest⟩
  have commas := congrArg skipSpaces rest
  rw [comma, comma] at commas
  have backs := congrArg skipSpaces (List.cons.inj commas).2
  rw [back, back, skipSpaces_numeral, skipSpaces_numeral] at backs
  rcases pair.second.unique other.second pair.trailing.stops other.trailing.stops backs with
    ⟨values, _⟩
  exact ⟨addresses, values⟩

/-! ## Rows -/

theorem exists_row_iff {line : List Char} {assignment : Assignment} :
    (∃ row : Row, row.text = line ∧ row.assignment = assignment) ↔
      ∃ pair : NumberPair, pair.text = line ∧ pair.address = assignment.address.toNat ∧
        pair.value = assignment.value.toNat := by
  constructor
  · intro written
    rcases written with ⟨row, rfl, rfl⟩
    refine ⟨{ row with
      address := row.assignment.address.toNat
      value := row.assignment.value.toNat
      first := row.address
      second := row.value }, ?_, rfl, rfl⟩
    simp [text, back, Row.text]
  · intro written
    rcases written with ⟨⟨address, value, indent, first, beforeComma, afterComma, second, trailing⟩,
      rfl, addressed, valued⟩
    cases addressed
    cases valued
    refine ⟨{
      assignment
      indent
      address := first
      beforeComma
      afterComma
      value := second
      trailing }, ?_, rfl⟩
    simp [text, back, Row.text]

theorem exists_small_iff {line : List Char} :
    (∃ row : Row, row.text = line) ↔
      ∃ pair : NumberPair, pair.text = line ∧ pair.address ≤ 0xFFFF ∧ pair.value ≤ 0xFF := by
  constructor
  · intro written
    rcases written with ⟨row, same⟩
    rcases exists_row_iff.mp ⟨row, same, rfl⟩ with ⟨pair, pairSame, addressed, valued⟩
    refine ⟨pair, pairSame, ?_, ?_⟩
    · exact addressed ▸ Nat.le_of_lt_succ row.assignment.address.toNat_lt
    · exact valued ▸ Nat.le_of_lt_succ row.assignment.value.toNat_lt
  · intro written
    rcases written with ⟨pair, same, small, smallToo⟩
    have addressed : (UInt16.ofNat pair.address).toNat = pair.address :=
      UInt16.toNat_ofNat_of_lt' (Nat.lt_succ_of_le small)
    have valued : (UInt8.ofNat pair.value).toNat = pair.value :=
      UInt8.toNat_ofNat_of_lt' (Nat.lt_succ_of_le smallToo)
    let assignment : Assignment :=
      { address := UInt16.ofNat pair.address, value := UInt8.ofNat pair.value }
    have written : ∃ row : Row, row.text = line ∧ row.assignment = assignment :=
      exists_row_iff.mpr ⟨pair, same, addressed.symm, valued.symm⟩
    exact written.imp fun _ => And.left

end NumberPair

/-! ## Lines -/

theorem parseAssignment_eq_ok_iff {line : NumberedLine} {assignment : Assignment} :
    parseAssignment line = .ok assignment ↔
      ∃ row : Row, row.text = line.content ∧ row.assignment = assignment := by
  rw [← assignment?_eq_some_iff, parseAssignment]
  cases assignment? line.content with
  | none => simp
  | some read => simp

theorem parseAssignment_eq_error_iff {line : NumberedLine} {error : Error} :
    parseAssignment line = .error error ↔
      error = .malformedLine line.number (String.ofList line.content) ∧
        ∀ row : Row, row.text ≠ line.content := by
  rw [← assignment?_eq_none_iff, parseAssignment]
  cases assignment? line.content with
  | none => simp [eq_comm]
  | some read => simp

/-- A line is data when two numbers are written in it that are not too large, and the data are these
numbers. Any other line is malformed, and is quoted as it is. No line says two pairs of numbers. -/
theorem parseAssignment_iff (line : NumberedLine) :
    (∀ assignment, parseAssignment line = .ok assignment ↔
      ∃ pair : NumberPair, pair.text = line.content ∧
        pair.address = assignment.address.toNat ∧ pair.value = assignment.value.toNat) ∧
    (∀ error, parseAssignment line = .error error ↔
      error = .malformedLine line.number (String.ofList line.content) ∧
        ¬∃ pair : NumberPair, pair.text = line.content ∧
          pair.address ≤ 0xFFFF ∧ pair.value ≤ 0xFF) ∧
    ∀ pair other : NumberPair, pair.text = other.text →
      pair.address = other.address ∧ pair.value = other.value := by
  refine ⟨?_, ?_, fun _ _ => NumberPair.unambiguous⟩
  · intro assignment
    rw [parseAssignment_eq_ok_iff, NumberPair.exists_row_iff]
  · intro error
    rw [parseAssignment_eq_error_iff, ← NumberPair.exists_small_iff, not_exists]

example : parseAssignment { number := 2, content := "0x10000,0".toList } =
    .error (.malformedLine 2 "0x10000,0") := by decide

end ClockBoard.Listing
