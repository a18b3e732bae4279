import ClockBoard.Listing.Plain
import ClockBoard.Proofs.Listing.Grammar

/-!
A plain listing has nothing above its header but blank lines and comments, and nothing below but
rows and comments, until a blank line or the end of the text. What is below the blank line does not
count.

The main statement says of every text what it is read as: the rows below the header, or what is
wrong with the first line that cannot stand where it stands.
-/

namespace ClockBoard.Listing

/-- Whether a line may stand above the header: it is blank, or starts with a hash. -/
def Leads (line : List Char) : Prop :=
  (∀ char ∈ line, Text.isBlank char = true) ∨ line.head? = some '#'

/-- Whether lines are comments and rows, and the rows hold given assignments. -/
inductive Rows : List (List Char) → List Assignment → Prop
  | none : Rows [] []
  | comment {line : List Char} {lines : List (List Char)} {assignments : List Assignment}
      (hash : line.head? = some '#') (rest : Rows lines assignments) :
      Rows (line :: lines) assignments
  | row (row : Row) {lines : List (List Char)} {assignments : List Assignment}
      (rest : Rows lines assignments) :
      Rows (row.text :: lines) (row.assignment :: assignments)

/-- Whether lines begin with a blank line, if there are any. -/
def Ended (lines : List (List Char)) : Prop :=
  ∀ line, lines.head? = some line → ∀ char ∈ line, Text.isBlank char = true

inductive PlainResult (lines : List (List Char)) : Except Error (List Assignment) → Prop
  | headless (leads : ∀ line ∈ lines, Leads line) : PlainResult lines (.error .missingHeader)
  | stray {above below : List (List Char)} {line : List Char}
      (split : lines = above ++ line :: below) (leads : ∀ line ∈ above, Leads line)
      (visible : ¬Leads line) (other : ∀ header : Header, header.text ≠ line) :
      PlainResult lines (.error (.dataBeforeMarker (above.length + 1)))
  | malformed {above body below : List (List Char)} {line : List Char} {header : Header}
      {assignments : List Assignment}
      (split : lines = above ++ header.text :: (body ++ line :: below))
      (leads : ∀ line ∈ above, Leads line) (rows : Rows body assignments)
      (visible : ¬Leads line) (misspelled : ∀ row : Row, row.text ≠ line) :
      PlainResult lines
        (.error (.malformedLine (above.length + 1 + body.length + 1) (String.ofList line)))
  | listed {above body below : List (List Char)} {header : Header}
      {assignments : List Assignment}
      (split : lines = above ++ header.text :: (body ++ below))
      (leads : ∀ line ∈ above, Leads line) (rows : Rows body assignments) (ended : Ended below) :
      PlainResult lines (.ok assignments)

/-! ## One line -/

section Lines

variable {line : List Char} (number : Nat) (rest : List NumberedLine)

theorem ofLine_of_not_leads (visible : ¬Leads line) :
    LineKind.ofLine line = .header ∨ LineKind.ofLine line = .data := by
  have described := describes_ofLine line
  cases kind : LineKind.ofLine line with
  | header => exact .inl rfl
  | data => exact .inr rfl
  | blank =>
      rw [kind] at described
      exact absurd (.inl described) visible
  | comment =>
      rw [kind] at described
      exact absurd (.inr described.1) visible
  | sectionStart name =>
      rw [kind] at described
      rcases described with ⟨written, rfl⟩
      exact absurd (.inr rfl) visible
  | sectionEnd name =>
      rw [kind] at described
      rcases described with ⟨written, rfl⟩
      exact absurd (.inr rfl) visible

theorem plainBody_hash (hash : line.head? = some '#') :
    plainBody ({ number, content := line } :: rest) = plainBody rest := by
  rcases List.head?_eq_some_iff.mp hash with ⟨others, rfl⟩
  simp only [plainBody, NumberedLine.kind]
  rcases ofLine_hash others with ⟨_, kind⟩ | ⟨_, kind⟩ | kind <;> rw [kind]

theorem plainBody_row (row : Row) :
    plainBody ({ number, content := row.text } :: rest) =
      (row.assignment :: ·) <$> plainBody rest := by
  simp only [plainBody, NumberedLine.kind, ofLine_row, parseAssignment, assignment?_row]
  rfl

theorem plainBody_malformed (visible : ¬Leads line) (misspelled : ∀ row : Row, row.text ≠ line) :
    plainBody ({ number, content := line } :: rest) =
      .error (.malformedLine number (String.ofList line)) := by
  have unread : assignment? line = none := assignment?_eq_none_iff.mpr misspelled
  simp only [plainBody, NumberedLine.kind, parseAssignment, unread]
  rcases ofLine_of_not_leads visible with kind | kind
  · rw [kind]
    rfl
  · rw [kind]
    rfl

theorem plainLines_leads (leads : Leads line) :
    plainLines ({ number, content := line } :: rest) = plainLines rest := by
  simp only [plainLines, NumberedLine.kind]
  rcases leads with blank | hash
  · rw [ofLine_blank blank]
  · rcases List.head?_eq_some_iff.mp hash with ⟨others, rfl⟩
    rcases ofLine_hash others with ⟨_, kind⟩ | ⟨_, kind⟩ | kind <;> rw [kind]

theorem plainLines_header (header : Header) :
    plainLines ({ number, content := header.text } :: rest) = plainBody rest := by
  simp only [plainLines, NumberedLine.kind, ofLine_header]

theorem plainLines_stray (visible : ¬Leads line) (other : ∀ header : Header, header.text ≠ line) :
    plainLines ({ number, content := line } :: rest) = .error (.dataBeforeMarker number) := by
  simp only [plainLines, NumberedLine.kind]
  rcases ofLine_of_not_leads visible with kind | kind
  · rcases describes_of_ofLine kind with ⟨header, same⟩
    exact absurd same (other header)
  · rw [kind]

end Lines

/-! ## Lines one below the other -/

section Runs

variable {above body below lines : List (List Char)} {assignments : List Assignment}

theorem plainLines_above (leads : ∀ line ∈ above, Leads line) (number : Nat) :
    plainLines (numberFrom number (above ++ below)) =
      plainLines (numberFrom (number + above.length) below) := by
  induction above generalizing number with
  | nil => rfl
  | cons line above induction =>
      rcases List.forall_mem_cons.mp leads with ⟨own, later⟩
      rw [List.cons_append, numberFrom, plainLines_leads number _ own, induction later,
        List.length_cons, Nat.add_right_comm, Nat.add_assoc]

theorem plainBody_rows (rows : Rows body assignments) (number : Nat) :
    plainBody (numberFrom number (body ++ below)) =
      (assignments ++ ·) <$> plainBody (numberFrom (number + body.length) below) := by
  induction rows generalizing number with
  | none => simp
  | comment hash rest induction =>
      rw [List.cons_append, numberFrom, plainBody_hash number _ hash, induction,
        List.length_cons, Nat.add_right_comm, Nat.add_assoc]
  | row row rest induction =>
      rw [List.cons_append, numberFrom, plainBody_row, induction, List.length_cons,
        Nat.add_right_comm, Nat.add_assoc]
      simp

theorem plainBody_ended (ended : Ended below) (number : Nat) :
    plainBody (numberFrom number below) = .ok [] := by
  cases below with
  | nil => rfl
  | cons line below =>
      have blank := ended line rfl
      simp only [numberFrom, plainBody, NumberedLine.kind, ofLine_blank blank]

theorem PlainResult.read {result : Except Error (List Assignment)}
    (described : PlainResult lines result) : plainLines (numberFrom 1 lines) = result := by
  cases described with
  | headless leads =>
      rw [← List.append_nil lines, plainLines_above leads]
      rfl
  | stray split leads visible other =>
      rw [split, plainLines_above leads, numberFrom, plainLines_stray _ _ visible other,
        Nat.add_comm]
  | malformed split leads rows visible misspelled =>
      rw [split, plainLines_above leads, numberFrom, plainLines_header, plainBody_rows rows,
        numberFrom, plainBody_malformed _ _ visible misspelled, Nat.add_comm 1, Nat.add_right_comm]
      rfl
  | listed split leads rows ended =>
      rw [split, plainLines_above leads, numberFrom, plainLines_header, plainBody_rows rows,
        plainBody_ended ended]
      simp

theorem exists_above (lines : List (List Char)) :
    (∀ line ∈ lines, Leads line) ∨
      ∃ above line below, lines = above ++ line :: below ∧ (∀ line ∈ above, Leads line) ∧
        ¬Leads line := by
  induction lines with
  | nil => exact .inl nofun
  | cons line lines induction =>
      by_cases own : Leads line
      · rcases induction with leads | ⟨above, visible, below, split, leads, notLeads⟩
        · exact .inl (List.forall_mem_cons.mpr ⟨own, leads⟩)
        · exact .inr ⟨line :: above, visible, below, by rw [split, List.cons_append],
            List.forall_mem_cons.mpr ⟨own, leads⟩, notLeads⟩
      · exact .inr ⟨[], line, lines, rfl, nofun, own⟩

theorem exists_body (lines : List (List Char)) :
    ∃ body below assignments, lines = body ++ below ∧ Rows body assignments ∧
      (Ended below ∨ ∃ line rest, below = line :: rest ∧ ¬Leads line ∧
        ∀ row : Row, row.text ≠ line) := by
  induction lines with
  | nil => exact ⟨[], [], [], rfl, .none, .inl nofun⟩
  | cons line lines induction =>
      rcases induction with ⟨body, below, assignments, split, rows, rest⟩
      by_cases hash : line.head? = some '#'
      · exact ⟨line :: body, below, assignments, by rw [split, List.cons_append],
          .comment hash rows, rest⟩
      · by_cases written : ∃ row : Row, row.text = line
        · rcases written with ⟨row, rfl⟩
          exact ⟨row.text :: body, below, row.assignment :: assignments,
            by rw [split, List.cons_append], .row row rows, rest⟩
        · refine ⟨[], line :: lines, [], rfl, .none, ?_⟩
          by_cases blank : ∀ char ∈ line, Text.isBlank char = true
          · left
            intro first same
            exact Option.some.inj same ▸ blank
          · exact .inr ⟨line, lines, rfl, not_or.mpr ⟨blank, hash⟩, not_exists.mp written⟩

theorem exists_plainResult (lines : List (List Char)) : ∃ result, PlainResult lines result := by
  rcases exists_above lines with leads | ⟨above, line, below, split, leads, visible⟩
  · exact ⟨_, .headless leads⟩
  · by_cases heads : ∃ header : Header, header.text = line
    · rcases heads with ⟨header, rfl⟩
      rcases exists_body below with ⟨body, under, assignments, bodySplit, rows, rest⟩
      rw [bodySplit] at split
      rcases rest with ended | ⟨line, others, rfl, hidden, misspelled⟩
      · exact ⟨_, .listed split leads rows ended⟩
      · exact ⟨_, .malformed split leads rows hidden misspelled⟩
    · exact ⟨_, .stray split leads visible (not_exists.mp heads)⟩

end Runs

theorem PlainResult.parsePlain_eq {text : String} {result : Except Error (List Assignment)}
    (described : PlainResult (textLines text) result) : parsePlain text = result := by
  rw [parsePlain, linesOf_eq]
  exact described.read

/-- A text is read as what its lines say. -/
theorem parsePlain_iff (text : String) (result : Except Error (List Assignment)) :
    parsePlain text = result ↔ PlainResult (textLines text) result := by
  constructor
  · intro read
    rcases exists_plainResult (textLines text) with ⟨other, described⟩
    exact described.parsePlain_eq.symm.trans read ▸ described
  · exact PlainResult.parsePlain_eq

example : parsePlain "Address,Data\n0x1,2\nAddress,Data\n\n" =
    .error (.malformedLine 3 "Address,Data") := by decide

end ClockBoard.Listing
