import ClockBoard.Proofs.Listing.Line

/-!
What the lines of a listing are, told by how they are written. A line has one meaning at most:
whatever is read from it, it could only have been written to say so.

The main statements say when a line is data, when it is an edge of a section, and when it is passed
over.
-/

namespace ClockBoard.Listing

/-! ## Lines of a text -/

def textLines (text : String) : List (List Char) :=
  (text.toList.splitOn '\n').map stripReturn

theorem splitLines_eq_splitOn (text : List Char) : splitLines text = text.splitOn '\n' := by
  induction text with
  | nil => rfl
  | cons char rest induction =>
      rw [List.splitOn_cons_eq_if_modifyHead, ← induction]
      by_cases feed : char = '\n'
      · rw [feed]
        rfl
      · have some : splitLines rest ≠ [] := induction ▸ List.splitOn_ne_nil _ _
        rw [if_neg (by simpa using feed), splitLines]
        · cases lines : splitLines rest with
          | nil => exact absurd lines some
          | cons line others => rfl
        · exact feed

theorem linesOf_eq (text : String) : linesOf text = numberFrom 1 (textLines text) := by
  rw [linesOf, splitLines_eq_splitOn, textLines]

/-! ## Data lines -/

theorem dropHexMarker_cases (text : List Char) :
    ∃ marker : HexMarker, text = marker.text ++ dropHexMarker text := by
  unfold dropHexMarker
  split
  · exact ⟨.lower, rfl⟩
  · exact ⟨.upper, rfl⟩
  · exact ⟨.none, rfl⟩

theorem hexNumber?_eq_some {limit number : Nat} {text rest : List Char}
    (read : hexNumber? limit text = some (number, rest)) :
    number ≤ limit ∧ ∃ numeral : Numeral number, text = numeral.text ++ rest := by
  simp only [hexNumber?, Option.bind_eq_bind, Option.bind_eq_some_iff] at read
  obtain ⟨value, digits, limited⟩ := read
  split at limited
  · rename_i small
    cases limited
    obtain ⟨marker, front⟩ := dropHexMarker_cases text
    apply And.intro small
    refine ⟨⟨marker, _, Text.natural?_eq_some_iff_spells.mp digits⟩, ?_⟩
    rw [Numeral.text, List.append_assoc, List.takeWhile_append_dropWhile]
    exact front
  · cases limited

theorem assignment?_eq_some_iff {line : List Char} {assignment : Assignment} :
    assignment? line = some assignment ↔
      ∃ row : Row, row.text = line ∧ row.assignment = assignment := by
  constructor
  · intro read
    simp only [assignment?, Option.bind_eq_bind, Option.bind_eq_some_iff] at read
    obtain ⟨⟨address, afterAddress⟩, first, afterComma, comma, ⟨value, afterValue⟩, second,
      ended⟩ := read
    split at ended
    · rename_i finished
      cases ended
      obtain ⟨small, first, front⟩ := hexNumber?_eq_some first
      obtain ⟨smallToo, second, back⟩ := hexNumber?_eq_some second
      have addressed : (UInt16.ofNat address).toNat = address :=
        UInt16.toNat_ofNat_of_lt' (Nat.lt_succ_of_le small)
      have valued : (UInt8.ofNat value).toNat = value :=
        UInt8.toNat_ofNat_of_lt' (Nat.lt_succ_of_le smallToo)
      obtain ⟨indent, indented⟩ := skipSpaces_gap_append line
      obtain ⟨gapBefore, before⟩ := skipSpaces_gap_append afterAddress
      obtain ⟨gapAfter, after⟩ := skipSpaces_gap_append afterComma
      obtain ⟨trailing, trailed⟩ := skipSpaces_gap_append afterValue
      refine ⟨{
        assignment := { address := UInt16.ofNat address, value := UInt8.ofNat value }
        indent
        address := { first with spells := addressed.symm ▸ first.spells }
        beforeComma := gapBefore
        afterComma := gapAfter
        value := { second with spells := valued.symm ▸ second.spells }
        trailing }, ?_, rfl⟩
      simp only [finished, List.append_nil] at trailed
      rw [afterWord?_eq_some comma, after, back, trailed] at before
      rw [indented, front, before]
      simp [Row.text, Numeral.text]
    · cases ended
  · intro written
    obtain ⟨row, rfl, rfl⟩ := written
    exact assignment?_row row

theorem assignment?_eq_none_iff {line : List Char} :
    assignment? line = none ↔ ∀ row : Row, row.text ≠ line := by
  simp [Option.eq_none_iff_forall_ne_some, assignment?_eq_some_iff]

/-! ## Kinds -/

def Starts (name : String) (line : List Char) : Prop :=
  ∃ written : EdgeLine "Start" name, written.text = line

def Ends (name : String) (line : List Char) : Prop :=
  ∃ written : EdgeLine "End" name, written.text = line

def IsEdge (line : List Char) : Prop :=
  ∃ name, Starts name line ∨ Ends name line

/-- Whether a line is passed over wherever it stands: it is blank, a comment, or a header. -/
def Skipped (line : List Char) : Prop :=
  (∀ char ∈ line, Text.isBlank char = true) ∨ (line.head? = some '#' ∧ ¬IsEdge line) ∨
    ∃ header : Header, header.text = line

theorem isHeader_iff {line : List Char} :
    isHeader line = true ↔ ∃ header : Header, header.text = line := by
  constructor
  · intro read
    rw [isHeader] at read
    split at read
    · rename_i rest word
      obtain ⟨indent, indented⟩ := skipSpaces_gap_append line
      obtain ⟨trailing, trailed⟩ := skipSpaces_gap_append rest
      refine ⟨{ indent, trailing }, ?_⟩
      rw [eq_of_beq read, List.append_nil] at trailed
      rw [indented, afterWord?_eq_some word, trailed]
      simp [Header.text]
    · cases read
  · intro written
    obtain ⟨header, same⟩ := written
    exact same ▸ isHeader_header header

def LineKind.Describes (line : List Char) : LineKind → Prop
  | .blank => ∀ char ∈ line, Text.isBlank char = true
  | .sectionStart name => Starts name line
  | .sectionEnd name => Ends name line
  | .comment => line.head? = some '#' ∧ ¬IsEdge line
  | .header => ∃ header : Header, header.text = line
  | .data => ¬Skipped line ∧ ¬IsEdge line

theorem describes_ofLine (line : List Char) : (LineKind.ofLine line).Describes line := by
  by_cases blank : line.all Text.isBlank = true
  · rw [LineKind.ofLine, if_pos blank]
    exact List.all_eq_true.mp blank
  · rw [LineKind.ofLine, if_neg blank]
    split
    · rename_i name read
      exact edgeLine_of_markedName? read
    · rename_i unstarted
      split
      · rename_i name read
        exact edgeLine_of_markedName? read
      · rename_i unended
        have plain : ¬IsEdge line := by
          intro edge
          obtain ⟨name, ⟨written, same⟩ | ⟨written, same⟩⟩ := edge
          · exact unstarted name (same ▸ markedName?_startLine written)
          · exact unended name (same ▸ markedName?_endLine written)
        by_cases hash : line.head? = some '#'
        · rw [if_pos hash]
          exact ⟨hash, plain⟩
        · rw [if_neg hash]
          by_cases header : isHeader line = true
          · rw [if_pos header]
            exact isHeader_iff.mp header
          · rw [if_neg header]
            apply And.intro _ plain
            intro skipped
            obtain clear | ⟨commented, _⟩ | heading := skipped
            · exact blank (List.all_eq_true.mpr clear)
            · exact hash commented
            · exact header (isHeader_iff.mpr heading)

theorem describes_of_ofLine {line : List Char} {kind : LineKind}
    (same : LineKind.ofLine line = kind) : kind.Describes line :=
  same ▸ describes_ofLine line

theorem ofLine_eq_iff {line : List Char} {kind : LineKind} :
    LineKind.ofLine line = kind ↔ kind.Describes line := by
  constructor
  · exact describes_of_ofLine
  · intro described
    cases kind with
    | blank => exact ofLine_blank described
    | sectionStart name =>
        obtain ⟨written, same⟩ := described
        exact same ▸ ofLine_startLine written
    | sectionEnd name =>
        obtain ⟨written, same⟩ := described
        exact same ▸ ofLine_endLine written
    | header =>
        obtain ⟨written, same⟩ := described
        exact same ▸ ofLine_header written
    | comment =>
        obtain ⟨hash, plain⟩ := described
        obtain ⟨rest, hashed⟩ := List.head?_eq_some_iff.mp hash
        obtain ⟨name, start⟩ | ⟨name, finish⟩ | comment := hashed ▸ ofLine_hash rest
        · exact absurd ⟨name, .inl (describes_of_ofLine start)⟩ plain
        · exact absurd ⟨name, .inr (describes_of_ofLine finish)⟩ plain
        · exact comment
    | data =>
        obtain ⟨shown, plain⟩ := described
        cases kind : LineKind.ofLine line with
        | blank => exact absurd (.inl (describes_of_ofLine kind)) shown
        | sectionStart name => exact absurd ⟨name, .inl (describes_of_ofLine kind)⟩ plain
        | sectionEnd name => exact absurd ⟨name, .inr (describes_of_ofLine kind)⟩ plain
        | comment => exact absurd (.inr (.inl (describes_of_ofLine kind))) shown
        | header => exact absurd (.inr (.inr (describes_of_ofLine kind))) shown
        | data => rfl

theorem Starts.kind {name : String} {line : List Char} (starts : Starts name line) :
    LineKind.ofLine line = .sectionStart name :=
  ofLine_eq_iff.mpr starts

theorem Ends.kind {name : String} {line : List Char} (ends : Ends name line) :
    LineKind.ofLine line = .sectionEnd name :=
  ofLine_eq_iff.mpr ends

theorem skipped_iff {line : List Char} :
    Skipped line ↔ LineKind.ofLine line = .blank ∨ LineKind.ofLine line = .comment ∨
      LineKind.ofLine line = .header := by
  simp only [ofLine_eq_iff]
  rfl

instance : DecidablePred Skipped := fun _ => decidable_of_iff _ skipped_iff.symm

theorem Skipped.not_isEdge {line : List Char} (skipped : Skipped line) : ¬IsEdge line := by
  intro edge
  obtain ⟨name, starts | ends⟩ := edge
  · simp [skipped_iff, starts.kind] at skipped
  · simp [skipped_iff, ends.kind] at skipped

theorem Row.plain_text (row : Row) : ¬Skipped row.text ∧ ¬IsEdge row.text :=
  ofLine_eq_iff.mp (ofLine_row row)

theorem Starts.name_eq {line : List Char} {name other : String} (starts : Starts name line)
    (again : Starts other line) : name = other :=
  LineKind.sectionStart.inj (starts.kind.symm.trans again.kind)

theorem Ends.not_starts {line : List Char} {name other : String} (ends : Ends name line) :
    ¬Starts other line := by
  intro starts
  cases ends.kind.symm.trans starts.kind

end ClockBoard.Listing
