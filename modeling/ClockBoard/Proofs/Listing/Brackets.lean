import ClockBoard.Proofs.Listing.Grammar

/-!
A sectioned listing is read when its lines are blocks one below the other, and what is read are the
blocks. Otherwise the first line that cannot stand where it stands is at fault, or the section that
is open at the end.

The main statement is about every text. The lines are gone through with the section that is open,
and what a line does to it depends on how the line is written.
-/

namespace ClockBoard.Listing

/-! ## Blocks -/

/-- Whether lines are blocks, one below the other, that hold given sections. -/
inductive Bracketed : List (List Char) → List Section → Prop
  | none : Bracketed [] []
  | block {name : String} {first last : List Char} {rows : List Row} {below : List (List Char)}
      {sections : List Section} (start : Starts name first) (finish : Ends name last)
      (rest : Bracketed below sections) :
      Bracketed (first :: (rows.map Row.text ++ last :: below))
        ({ name, assignments := rows.map Row.assignment } :: sections)

theorem Bracketed.append {lines below : List (List Char)} {sections later : List Section}
    (front : Bracketed lines sections) (back : Bracketed below later) :
    Bracketed (lines ++ below) (sections ++ later) := by
  induction front with
  | none => exact back
  | block start finish rest induction => simpa using Bracketed.block start finish induction

theorem Bracketed.flatMap {ι : Type} {items : List ι} {lines : ι → List (List Char)}
    {contents : ι → Section} (each : ∀ item ∈ items, Bracketed (lines item) [contents item]) :
    Bracketed (items.flatMap lines) (items.map contents) := by
  induction items with
  | nil => exact .none
  | cons item items induction =>
      obtain ⟨own, rest⟩ := List.forall_mem_cons.mp each
      exact own.append (induction rest)

def shown (lines : List (List Char)) : List (List Char) :=
  lines.filter fun line => ¬Skipped line

/-! ## Errors -/

/-- Whether the last edge among some lines starts the section with a name. -/
def Opens (above : List (List Char)) (name : String) : Prop :=
  ∃ front line back, above = front ++ line :: back ∧ Starts name line ∧
    ∀ other ∈ back, ¬IsEdge other

def IsOpen (above : List (List Char)) : Option String → Prop
  | some name => Opens above name
  | none => ∀ name, ¬Opens above name

inductive Refuses (number : Nat) (line : List Char) : Option String → Error → Prop
  | nested {name opened : String} (start : Starts name line) :
      Refuses number line (some opened) (.nestedSection number name opened)
  | mismatched {name opened : String} (finish : Ends name line) (other : opened ≠ name) :
      Refuses number line (some opened) (.mismatchedEnd number opened name)
  | unmatched {name : String} (finish : Ends name line) :
      Refuses number line none (.unmatchedEnd number name)
  | stray (visible : ¬Skipped line) (plain : ¬IsEdge line) :
      Refuses number line none (.dataBeforeMarker number)
  | malformed {opened : String} (visible : ¬Skipped line) (plain : ¬IsEdge line)
      (misspelled : ∀ row : Row, row.text ≠ line) :
      Refuses number line (some opened) (.malformedLine number (String.ofList line))

def Offends (above : List (List Char)) (line : List Char) (error : Error) : Prop :=
  ∃ opened?, IsOpen above opened? ∧ Refuses (above.length + 1) line opened? error

def Sound (lines : List (List Char)) : Prop :=
  ∀ above line below, lines = above ++ line :: below → ∀ error, ¬Offends above line error

/-- What is wrong with lines: what is wrong with the first that there is something wrong with, or
else a section that is not closed. -/
inductive FirstError (lines : List (List Char)) : Error → Prop
  | offence {above below : List (List Char)} {line : List Char} {error : Error}
      (split : lines = above ++ line :: below) (sound : Sound above)
      (offends : Offends above line error) : FirstError lines error
  | unterminated {name : String} (sound : Sound lines) (opens : Opens lines name) :
      FirstError lines (.unterminatedSection name)

/-! ## One line -/

/-- What a line does to the section that is open, if one is, and the sections that it closes. -/
inductive Step (line : List Char) : Option Section → Option Section → List Section → Prop
  | skip {opened? : Option Section} (skipped : Skipped line) : Step line opened? opened? []
  | start {name : String} (start : Starts name line) :
      Step line none (some { name, assignments := [] }) []
  | add {opened : Section} {row : Row} (written : row.text = line) :
      Step line (some opened) (some (opened.add row.assignment)) []
  | finish {opened : Section} (finish : Ends opened.name line) :
      Step line (some opened) none [opened]

section Lines

variable {line : List Char} {opened? next? : Option Section} {done : List Section}
  {number : Nat} {error : Error}

theorem sectionLines_step (step : Step line opened? next? done) (number : Nat)
    (rest : List NumberedLine) :
    sectionLines opened? ({ number, content := line } :: rest) =
      (done ++ ·) <$> sectionLines next? rest := by
  cases step with
  | skip skipped =>
      have same : sectionLines opened? ({ number, content := line } :: rest) =
          sectionLines opened? rest := by
        obtain kind | kind | kind := skipped_iff.mp skipped
        · simp only [sectionLines, NumberedLine.kind, kind]
        · simp only [sectionLines, NumberedLine.kind, kind]
        · simp only [sectionLines, NumberedLine.kind, kind]
      simp [same]
  | start start => simp [sectionLines, NumberedLine.kind, start.kind]
  | @add opened row written =>
      have kind : LineKind.ofLine line = .data := by
        rw [← written, ofLine_row]
      have read : assignment? line = some row.assignment := written ▸ assignment?_row row
      have same : sectionLines (some opened) ({ number, content := line } :: rest) =
          sectionLines (some (opened.add row.assignment)) rest := by
        simp only [sectionLines, NumberedLine.kind, kind, parseAssignment, read]
        rfl
      simp [same]
  | finish finish => simp [sectionLines, NumberedLine.kind, finish.kind]

theorem sectionLines_refuses
    (refused : Refuses number line (opened?.map Section.name) error)
    (rest : List NumberedLine) :
    sectionLines opened? ({ number, content := line } :: rest) = .error error := by
  cases opened? with
  | none =>
      cases refused with
      | unmatched finish => simp only [sectionLines, NumberedLine.kind, finish.kind]
      | stray visible plain =>
          have kind : LineKind.ofLine line = .data := ofLine_eq_iff.mpr ⟨visible, plain⟩
          simp only [sectionLines, NumberedLine.kind, kind]
  | some opened =>
      cases refused with
      | nested start => simp only [sectionLines, NumberedLine.kind, start.kind]
      | mismatched finish other =>
          simp only [sectionLines, NumberedLine.kind, finish.kind, if_neg other]
      | malformed visible plain misspelled =>
          have kind : LineKind.ofLine line = .data := ofLine_eq_iff.mpr ⟨visible, plain⟩
          have unread : assignment? line = none := assignment?_eq_none_iff.mpr misspelled
          simp only [sectionLines, NumberedLine.kind, kind, parseAssignment, unread]
          rfl

theorem step_or_refuses (number : Nat) (line : List Char) (opened? : Option Section) :
    (∃ next? done, Step line opened? next? done) ∨
      ∃ error, Refuses number line (opened?.map Section.name) error := by
  have described := describes_ofLine line
  cases kind : LineKind.ofLine line with
  | blank => exact .inl ⟨_, _, .skip (skipped_iff.mpr (.inl kind))⟩
  | comment => exact .inl ⟨_, _, .skip (skipped_iff.mpr (.inr (.inl kind)))⟩
  | header => exact .inl ⟨_, _, .skip (skipped_iff.mpr (.inr (.inr kind)))⟩
  | sectionStart name =>
      rw [kind] at described
      cases opened? with
      | none => exact .inl ⟨_, _, .start described⟩
      | some opened => exact .inr ⟨_, .nested described⟩
  | sectionEnd name =>
      rw [kind] at described
      cases opened? with
      | none => exact .inr ⟨_, .unmatched described⟩
      | some opened =>
          by_cases same : opened.name = name
          · exact .inl ⟨_, _, .finish (same ▸ described)⟩
          · exact .inr ⟨_, .mismatched described same⟩
  | data =>
      rw [kind] at described
      cases opened? with
      | none => exact .inr ⟨_, .stray described.1 described.2⟩
      | some opened =>
          by_cases written : ∃ row : Row, row.text = line
          · obtain ⟨row, same⟩ := written
            exact .inl ⟨_, _, .add same⟩
          · exact .inr ⟨_, .malformed described.1 described.2 (not_exists.mp written)⟩

theorem Step.not_refuses (step : Step line opened? next? done) :
    ¬Refuses number line (opened?.map Section.name) error := by
  intro refused
  have same := (sectionLines_step step number []).symm.trans (sectionLines_refuses refused [])
  -- At its end a text is only ever faulted for a section that is open.
  cases next? with
  | none => cases same
  | some opened =>
      cases same
      generalize opened?.map Section.name = name? at refused
      cases refused

end Lines

/-! ## Blocks as they are read -/

/-- Whether lines go on with the section that is open, if one is, and are blocks below it. -/
def Continues (lines : List (List Char)) (sections : List Section) : Option Section → Prop
  | none => Bracketed lines sections
  | some opened =>
      ∃ (rows : List Row) (last : List Char) (below : List (List Char)) (later : List Section),
        Ends opened.name last ∧ Bracketed below later ∧
          lines = rows.map Row.text ++ last :: below ∧
          sections = { opened with
            assignments := opened.assignments ++ rows.map Row.assignment } :: later

section Blocks

variable {line : List Char} {lines : List (List Char)} {opened? next? : Option Section}
  {done sections later : List Section}

theorem shown_skipped (skipped : Skipped line) : shown (line :: lines) = shown lines := by
  simp [shown, skipped]

theorem shown_visible (visible : ¬Skipped line) :
    shown (line :: lines) = line :: shown lines := by
  simp [shown, visible]

theorem shown_edge (edge : IsEdge line) : shown (line :: lines) = line :: shown lines :=
  shown_visible fun skipped => skipped.not_isEdge edge

theorem Step.continues (step : Step line opened? next? done)
    (rest : Continues (shown lines) later next?) :
    Continues (shown (line :: lines)) (done ++ later) opened? := by
  cases step with
  | skip skipped =>
      rw [shown_skipped skipped]
      exact rest
  | @start name start =>
      rw [shown_edge ⟨name, .inl start⟩]
      obtain ⟨rows, last, below, later, finish, bracketed, split, same⟩ := rest
      rw [split, same]
      exact .block start finish bracketed
  | @add opened row written =>
      rw [shown_visible (written ▸ row.plain_text.1)]
      obtain ⟨rows, last, below, later, finish, bracketed, split, same⟩ := rest
      refine ⟨row :: rows, last, below, later, finish, bracketed, ?_, ?_⟩
      · rw [split, List.map_cons, written, List.cons_append]
      · simp [same, Section.add]
  | @finish opened finish =>
      rw [shown_edge ⟨opened.name, .inr finish⟩]
      exact ⟨[], line, shown lines, later, finish, rest, rfl, by simp⟩

theorem exists_step (rest : Continues (shown (line :: lines)) sections opened?) :
    ∃ next? done later, Step line opened? next? done ∧
      Continues (shown lines) later next? ∧ sections = done ++ later := by
  by_cases skipped : Skipped line
  · rw [shown_skipped skipped] at rest
    exact ⟨opened?, [], sections, .skip skipped, rest, rfl⟩
  · rw [shown_visible skipped] at rest
    generalize shown lines = below at rest
    cases opened? with
    | none =>
        cases rest with
        | @block name _ last rows below later start finish bracketed =>
            exact ⟨_, _, _, .start start,
              ⟨rows, last, below, later, finish, bracketed, rfl, rfl⟩, rfl⟩
    | some opened =>
        obtain ⟨rows, last, under, later, finish, bracketed, split, same⟩ := rest
        cases rows with
        | nil =>
            obtain ⟨rfl, rfl⟩ := List.cons.inj split
            refine ⟨_, _, later, .finish finish, bracketed, ?_⟩
            simp [same]
        | cons row rows =>
            obtain ⟨first, others⟩ := List.cons.inj split
            refine ⟨_, _, sections, .add first.symm,
              ⟨rows, last, under, later, finish, bracketed, others, ?_⟩, rfl⟩
            simp [same, Section.add]

theorem sectionLines_eq_ok_iff (number : Nat) :
    sectionLines opened? (numberFrom number lines) = .ok sections ↔
      Continues (shown lines) sections opened? := by
  induction lines generalizing number opened? sections with
  | nil =>
      cases opened? with
      | none =>
          constructor
          · intro read
            cases read
            exact .none
          · intro rest
            cases rest
            rfl
      | some opened =>
          constructor
          · intro read
            cases read
          · intro rest
            obtain ⟨rows, last, below, later, _, _, split, _⟩ := rest
            simp [shown] at split
  | cons line lines induction =>
      rw [numberFrom]
      constructor
      · intro read
        obtain ⟨next?, done, step⟩ | ⟨error, refused⟩ := step_or_refuses number line opened?
        · rw [sectionLines_step step] at read
          cases next : sectionLines next? (numberFrom (number + 1) lines) with
          | error error =>
              rw [next] at read
              cases read
          | ok later =>
              rw [next] at read
              cases read
              exact step.continues ((induction (number + 1)).mp next)
        · rw [sectionLines_refuses refused] at read
          cases read
      · intro rest
        obtain ⟨next?, done, later, step, rest, same⟩ := exists_step rest
        rw [sectionLines_step step, (induction (number + 1)).mpr rest, same]
        rfl

end Blocks

/-! ## The first error -/

section FirstError

variable {line : List Char} {above : List (List Char)} {error : Error}

theorem concat_eq_split {other : List Char} {front back : List (List Char)}
    (split : above ++ [line] = front ++ other :: back) :
    (above = front ∧ line = other ∧ back = []) ∨
      ∃ between, above = front ++ other :: between ∧ back = between ++ [line] := by
  obtain rfl | ⟨between, last, rfl⟩ := List.eq_nil_or_concat' back
  · left
    obtain ⟨same, lastSame⟩ := List.append_inj' split rfl
    exact ⟨same, List.head_eq_of_cons_eq lastSame, rfl⟩
  · right
    have whole : above ++ [line] = (front ++ other :: between) ++ [last] := by
      simpa using split
    obtain ⟨same, lastSame⟩ := List.append_inj' whole rfl
    refine ⟨between, same, ?_⟩
    rw [lastSame]

theorem opens_concat_iff {name : String} :
    Opens (above ++ [line]) name ↔ Starts name line ∨ (¬IsEdge line ∧ Opens above name) := by
  constructor
  · intro opens
    obtain ⟨front, edge, back, split, start, plain⟩ := opens
    obtain ⟨_, same, _⟩ | ⟨between, aboveSplit, backSplit⟩ := concat_eq_split split
    · exact .inl (same ▸ start)
    · right
      rw [backSplit, List.forall_mem_append, List.forall_mem_singleton] at plain
      exact ⟨plain.2, front, edge, between, aboveSplit, start, plain.1⟩
  · intro opens
    obtain start | ⟨plain, front, edge, back, split, start, plainBack⟩ := opens
    · exact ⟨above, line, [], rfl, start, nofun⟩
    · refine ⟨front, edge, back ++ [line], by simp [split], start, ?_⟩
      rw [List.forall_mem_append, List.forall_mem_singleton]
      exact ⟨plainBack, plain⟩

theorem isOpen_concat_of_plain (plain : ¬IsEdge line) (name? : Option String) :
    IsOpen (above ++ [line]) name? ↔ IsOpen above name? := by
  have unstarted (name : String) : ¬Starts name line := fun start => plain ⟨name, .inl start⟩
  cases name? <;> simp [IsOpen, opens_concat_iff, plain, unstarted]

theorem not_opens_nil (name : String) : ¬Opens [] name := by
  intro opens
  obtain ⟨front, line, back, split, _⟩ := opens
  cases front <;> cases split

theorem Opens.name_eq {name other : String} (opens : Opens above name)
    (again : Opens above other) : name = other := by
  induction above using List.reverseRecOn with
  | nil => exact absurd opens (not_opens_nil name)
  | append_singleton above line induction =>
      obtain start | ⟨plain, opens⟩ := opens_concat_iff.mp opens
      · obtain same | ⟨plain, _⟩ := opens_concat_iff.mp again
        · exact start.name_eq same
        · exact absurd ⟨name, .inl start⟩ plain
      · obtain start | ⟨_, again⟩ := opens_concat_iff.mp again
        · exact absurd ⟨other, .inl start⟩ plain
        · exact induction opens again

theorem IsOpen.eq {name? other? : Option String} (isOpen : IsOpen above name?)
    (again : IsOpen above other?) : name? = other? := by
  cases name? with
  | none =>
      cases other? with
      | none => rfl
      | some other => exact absurd again (isOpen other)
  | some name =>
      cases other? with
      | none => exact absurd isOpen (again name)
      | some other => exact congrArg some (isOpen.name_eq again)

theorem Step.isOpen {opened? next? : Option Section} {done : List Section}
    (step : Step line opened? next? done) (isOpen : IsOpen above (opened?.map Section.name)) :
    IsOpen (above ++ [line]) (next?.map Section.name) := by
  cases step with
  | skip skipped => exact (isOpen_concat_of_plain skipped.not_isEdge _).mpr isOpen
  | start start => exact opens_concat_iff.mpr (.inl start)
  | @add opened row written =>
      have plain : ¬IsEdge line := written ▸ row.plain_text.2
      exact (isOpen_concat_of_plain plain _).mpr isOpen
  | @finish opened finish =>
      intro name opens
      obtain start | ⟨plain, _⟩ := opens_concat_iff.mp opens
      · exact finish.not_starts start
      · exact plain ⟨opened.name, .inr finish⟩

theorem Sound.concat (sound : Sound above) (unoffending : ∀ error, ¬Offends above line error) :
    Sound (above ++ [line]) := by
  intro front other back split
  obtain ⟨same, lineSame, _⟩ | ⟨between, aboveSplit, _⟩ := concat_eq_split split
  · exact same ▸ lineSame ▸ unoffending
  · exact sound front other between aboveSplit

/-- Nothing is wrong with the lines above, and a section is open below them, or none is. -/
structure Reached (above : List (List Char)) (opened? : Option Section) : Prop where
  sound : Sound above
  isOpen : IsOpen above (opened?.map Section.name)

namespace Reached

variable {opened? next? : Option Section} {done : List Section}

theorem offends_iff (reached : Reached above opened?) :
    Offends above line error ↔
      Refuses (above.length + 1) line (opened?.map Section.name) error := by
  constructor
  · intro offends
    obtain ⟨name?, isOpen, refused⟩ := offends
    exact isOpen.eq reached.isOpen ▸ refused
  · intro refused
    exact ⟨_, reached.isOpen, refused⟩

theorem step (reached : Reached above opened?) (step : Step line opened? next? done) :
    Reached (above ++ [line]) next? where
  sound := by
    apply reached.sound.concat
    intro error offends
    exact step.not_refuses (reached.offends_iff.mp offends)
  isOpen := step.isOpen reached.isOpen

end Reached

theorem first_offence_unique {front below back : List (List Char)} {other : List Char}
    {otherError : Error} (split : above ++ line :: below = front ++ other :: back)
    (sound : Sound above) (offends : Offends above line error)
    (soundFront : Sound front) (offendsOther : Offends front other otherError) :
    above = front ∧ line = other := by
  obtain ⟨between, frontSplit, rest⟩ | ⟨between, aboveSplit, rest⟩ :=
    List.append_eq_append_iff.mp split
  · cases between with
    | nil => exact ⟨by simp [frontSplit], (List.cons.inj rest).1⟩
    | cons first between =>
        obtain ⟨rfl, _⟩ := List.cons.inj rest
        exact absurd offends (soundFront above line between frontSplit error)
  · cases between with
    | nil => exact ⟨by simp [aboveSplit], (List.cons.inj rest).1.symm⟩
    | cons first between =>
        obtain ⟨rfl, _⟩ := List.cons.inj rest
        exact absurd offendsOther (sound front other between aboveSplit otherError)

theorem sectionLines_eq_error_iff {below : List (List Char)} {opened? : Option Section}
    (reached : Reached above opened?) :
    sectionLines opened? (numberFrom (above.length + 1) below) = .error error ↔
      FirstError (above ++ below) error := by
  induction below generalizing above opened? with
  | nil =>
      rw [List.append_nil]
      constructor
      · intro read
        cases opened? with
        | none => cases read
        | some opened =>
            cases read
            exact .unterminated reached.sound reached.isOpen
      · intro first
        cases first with
        | offence split _ offends => exact absurd offends (reached.sound _ _ _ split _)
        | @unterminated name _ opens =>
            cases opened? with
            | none => exact absurd opens (reached.isOpen name)
            | some opened =>
                have same : opened.name = name := Opens.name_eq reached.isOpen opens
                exact same ▸ rfl
  | cons line below induction =>
      rw [numberFrom]
      obtain ⟨next?, done, step⟩ | ⟨fault, refused⟩ :=
        step_or_refuses (above.length + 1) line opened?
      · have later := induction (reached.step step)
        rw [List.length_append, List.length_singleton, List.append_assoc,
          List.singleton_append] at later
        rw [← later, sectionLines_step step]
        cases sectionLines next? (numberFrom (above.length + 1 + 1) below) with
        | error error => rfl
        | ok later => simp
      · rw [sectionLines_refuses refused]
        have offends : Offends above line fault := reached.offends_iff.mpr refused
        constructor
        · intro same
          cases same
          exact .offence rfl reached.sound offends
        · intro first
          cases first with
          | offence split sound offendsOther =>
              obtain ⟨rfl, rfl⟩ :=
                first_offence_unique split reached.sound offends sound offendsOther
              have refusedToo := reached.offends_iff.mp offendsOther
              have stopped := sectionLines_refuses refusedToo []
              exact (sectionLines_refuses refused []).symm.trans stopped
          | unterminated sound opens =>
              exact absurd offends (sound above line below rfl fault)

end FirstError

/-! ## Texts -/

theorem parseSections_eq_ok_iff {text : String} {sections : List Section} :
    parseSections text = .ok sections ↔ Bracketed (shown (textLines text)) sections := by
  rw [parseSections, linesOf_eq]
  exact sectionLines_eq_ok_iff 1

/-- A text is read when its lines are blocks, and what is read are the blocks. Otherwise what is
wrong is what is wrong with its lines first. -/
theorem parseSections_iff (text : String) :
    (∀ sections, parseSections text = .ok sections ↔
      Bracketed (shown (textLines text)) sections) ∧
    ∀ error, parseSections text = .error error ↔ FirstError (textLines text) error := by
  have reached : Reached [] none :=
    { sound := fun _ _ _ split => absurd split (by simp), isOpen := not_opens_nil }
  constructor
  · intro sections
    exact parseSections_eq_ok_iff
  · intro error
    rw [parseSections, linesOf_eq]
    exact sectionLines_eq_error_iff reached

example : parseSections "# Start configuration a\n0x1,2\n#End\tconfiguration a \n0x3,4" =
    .error (.dataBeforeMarker 4) := by decide

end ClockBoard.Listing
