import ClockBoard.Proofs.Listing.Brackets
import ClockBoard.Proofs.Listing.Plain

/-!
Listings come back as they were written, since what is written has the form of what is read.

The main statement is about both kinds of listings, however their lines are spelled and whatever
comments, headers and blank lines stand between them.
-/

namespace ClockBoard.Listing

/-! ## Lines in a text -/

theorem Row.single (row : Row) : '\n' ∉ row.text := fun member =>
  absurd (row.rowCharacter '\n' member) (by decide)

theorem Header.single (header : Header) : '\n' ∉ header.text := fun member =>
  (header.characters '\n' member).1 rfl

theorem Comment.text_single (comment : Comment) : '\n' ∉ comment.text := by
  simp [Comment.text, comment.single]

theorem Block.edgeText_single {edge : String} (name : SectionName) (single : '\n' ∉ edge.toList) :
    '\n' ∉ edgeText edge name := by
  simp [edgeText, single, name.single]

theorem FrontLine.single : (line : FrontLine) → '\n' ∉ line.text
  | .comment written => written.text_single
  | .blank written => written.single

theorem BodyLine.single : (line : BodyLine) → '\n' ∉ line.text
  | .comment written => written.text_single
  | .row written => written.single

theorem Filler.single : (line : Filler) → '\n' ∉ line.text
  | .blank written => written.single
  | .header written => written.single
  | .comment written _ => written.text_single

theorem InnerLine.single : (line : InnerLine) → '\n' ∉ line.text
  | .filler written => written.single
  | .row written => written.single

theorem Block.lines_single (block : Block) : ∀ line ∈ block.lines, '\n' ∉ line.1 := by
  simp only [Block.lines, List.forall_mem_append, List.forall_mem_cons, List.forall_mem_map]
  exact ⟨fun line _ => line.1.single, edgeText_single block.name (by decide),
    fun line _ => line.1.single, edgeText_single block.name (by decide), nofun⟩

theorem textLines_join {lines : List Line} (single : ∀ line ∈ lines, '\n' ∉ line.1) :
    textLines (joinLines lines) = lines.map Line.seen ++ [[]] := by
  rw [textLines, ← splitLines_eq_splitOn, splitLines_join single]

/-! ## Lines as they are seen -/

theorem Row.seen (row : Row) (ending : Ending) : Line.seen (row.text, ending) = row.text := by
  apply Line.seen_of_last
  intro returned
  exact absurd (row.rowCharacter '\r' (List.mem_of_getLast? returned)) (by decide)

theorem Header.seen (header : Header) (ending : Ending) :
    Line.seen (header.text, ending) = header.text := by
  apply Line.seen_of_last
  intro returned
  exact (header.characters '\r' (List.mem_of_getLast? returned)).2.1 rfl

theorem Block.edgeText_seen (edge : String) (name : SectionName) (ending : Ending) :
    Line.seen (Block.edgeText edge name, ending) = Block.edgeText edge name := by
  apply Line.seen_of_last
  intro returned
  have split : Block.edgeText edge name =
      (('#' :: ' ' :: edge.toList ++ " configuration".toList) ++ [' ']) ++ name.name.toList := by
    simp [Block.edgeText]
  rw [split, List.getLast?_append, List.getLast?_concat] at returned
  cases last : name.name.toList.getLast? with
  | none =>
      rw [last] at returned
      exact absurd (Option.some.inj returned) (by decide)
  | some char =>
      have same : char = '\r' := by simpa [last] using returned
      have dark := name.trimmed char last
      rw [same] at dark
      exact absurd dark (by decide)

theorem Comment.seen (comment : Comment) (ending : Ending) :
    ∃ rest, Line.seen (comment.text, ending) = '#' :: rest ∧
      ∀ edge, Marks edge ('#' :: rest) → Marks edge comment.text := by
  rcases Line.seen_cases (comment.text, ending) with same | returned
  · exact ⟨comment.rest, same.symm, fun _ marks => marks⟩
  · cases shown : Line.seen (comment.text, ending) with
    | nil =>
        rw [shown] at returned
        cases (List.cons.inj returned).1
    | cons char rest =>
        rw [shown] at returned
        have hash : char = '#' := (List.cons.inj returned).1.symm
        subst hash
        refine ⟨rest, rfl, fun edge marks => ?_⟩
        have whole : comment.text = '#' :: rest ++ ['\r'] := returned
        exact whole ▸ marks.append ['\r']

theorem BlankLine.seen (blank : BlankLine) (ending : Ending) :
    ∀ char ∈ Line.seen (blank.text, ending), Text.isBlank char = true := by
  intro char member
  apply blank.blank
  rcases Line.seen_cases (blank.text, ending) with same | returned
  · rwa [← same] at member
  · have whole : blank.text = _ := returned
    rw [whole]
    exact List.mem_append_left ['\r'] member

theorem FrontLine.leads (line : FrontLine) (ending : Ending) :
    Leads (Line.seen (line.text, ending)) := by
  cases line with
  | blank blank => exact .inl (blank.seen ending)
  | comment comment =>
      rcases comment.seen ending with ⟨rest, shown, _⟩
      exact .inr (List.head?_eq_some_iff.mpr ⟨rest, shown⟩)

theorem Filler.skipped (filler : Filler) (ending : Ending) :
    Skipped (Line.seen (filler.text, ending)) := by
  cases filler with
  | blank blank => exact .inl (blank.seen ending)
  | header header => exact .inr (.inr ⟨header, (header.seen ending).symm⟩)
  | comment comment unmarked =>
      rcases comment.seen ending with ⟨rest, shown, marks⟩
      have kind : LineKind.ofLine (Line.seen (comment.text, ending)) = .comment := by
        rw [shown]
        exact ofLine_comment ⟨mt (marks "Start") unmarked.1, mt (marks "End") unmarked.2⟩
      exact skipped_iff.mpr (.inr (.inl kind))

/-! ## Plain listings -/

theorem rows_body (body : List (BodyLine × Ending)) :
    Rows ((body.map (Prod.map BodyLine.text id)).map Line.seen)
      (body.filterMap fun line => line.1.assignment?) := by
  induction body with
  | nil => exact .none
  | cons line rest induction =>
      rcases line with ⟨content, ending⟩
      cases content with
      | comment comment =>
          rcases comment.seen ending with ⟨others, shown, _⟩
          exact .comment (List.head?_eq_some_iff.mpr ⟨others, shown⟩) induction
      | row row =>
          have read := Rows.row row induction
          rw [← row.seen ending] at read
          exact read

/-- The empty line below the last line of a text ends the data. -/
theorem parsePlain_text (document : PlainDocument) :
    parsePlain document.text = .ok document.assignments := by
  have single : ∀ line ∈ document.front.map (Prod.map FrontLine.text id) ++
      (document.header.1.text, document.header.2) ::
        document.body.map (Prod.map BodyLine.text id), '\n' ∉ line.1 := by
    simp only [List.forall_mem_append, List.forall_mem_cons, List.forall_mem_map]
    exact ⟨fun line _ => line.1.single, document.header.1.single, fun line _ => line.1.single⟩
  have leads : ∀ line ∈ (document.front.map (Prod.map FrontLine.text id)).map Line.seen,
      Leads line := by
    simp only [List.forall_mem_map]
    exact fun line _ => line.1.leads line.2
  have split : textLines document.text =
      (document.front.map (Prod.map FrontLine.text id)).map Line.seen ++
        document.header.1.text ::
          ((document.body.map (Prod.map BodyLine.text id)).map Line.seen ++ [[]]) := by
    rw [PlainDocument.text, textLines_join single, List.map_append, List.map_cons, Header.seen,
      List.append_assoc, List.cons_append]
  have ended : Ended [[]] := by
    rintro _ ⟨⟩ _ ⟨⟩
  exact (PlainResult.listed split leads (rows_body document.body) ended).parsePlain_eq

/-! ## Sectioned listings -/

theorem shown_append (above below : List (List Char)) :
    shown (above ++ below) = shown above ++ shown below :=
  List.filter_append above below

theorem shown_fillers (fillers : List (Filler × Ending)) :
    shown ((fillers.map (Prod.map Filler.text id)).map Line.seen) = [] := by
  apply List.filter_eq_nil_iff.mpr
  simp only [List.forall_mem_map]
  intro line _
  have skipped : Skipped (Line.seen (Prod.map Filler.text id line)) := line.1.skipped line.2
  simpa using skipped

theorem exists_rows (inner : List (InnerLine × Ending)) :
    ∃ rows : List Row,
      shown ((inner.map (Prod.map InnerLine.text id)).map Line.seen) = rows.map Row.text ∧
        (inner.filterMap fun line => line.1.assignment?) = rows.map Row.assignment := by
  induction inner with
  | nil => exact ⟨[], rfl, rfl⟩
  | cons line rest induction =>
      rcases induction with ⟨rows, seen, read⟩
      rcases line with ⟨content, ending⟩
      cases content with
      | filler filler => exact ⟨rows, (shown_skipped (filler.skipped ending)).trans seen, read⟩
      | row row =>
          refine ⟨row :: rows, ?_, congrArg (row.assignment :: ·) read⟩
          have visible : ¬Skipped (Line.seen (row.text, ending)) := by
            rw [row.seen]
            exact row.plain_text.1
          exact (shown_visible visible).trans (congrArg₂ List.cons (row.seen ending) seen)

theorem Block.bracketed (block : Block) :
    Bracketed (shown (block.lines.map Line.seen)) [block.contents] := by
  have start : Starts block.name.name (edgeText "Start" block.name) :=
    ⟨block.name.edge "Start", block.name.edge_text "Start"⟩
  have finish : Ends block.name.name (edgeText "End" block.name) :=
    ⟨block.name.edge "End", block.name.edge_text "End"⟩
  rcases exists_rows block.inner with ⟨rows, seen, read⟩
  rw [lines, List.map_append, shown_append, shown_fillers, List.nil_append, List.map_cons,
    edgeText_seen, shown_edge ⟨_, .inl start⟩, List.map_append, shown_append, seen,
    List.map_singleton, edgeText_seen, shown_edge ⟨_, .inr finish⟩, contents, read]
  exact .block start finish .none

theorem parseSections_text (document : SectionedDocument) :
    parseSections document.text = .ok document.sections := by
  have single : ∀ line ∈ document.blocks.flatMap Block.lines ++
      document.below.map (Prod.map Filler.text id), '\n' ∉ line.1 := by
    simp only [List.forall_mem_append, List.forall_mem_map, List.mem_flatMap]
    refine ⟨?_, fun line _ => line.1.single⟩
    rintro line ⟨block, _, member⟩
    exact block.lines_single line member
  have blank : Skipped [] := .inl (List.forall_mem_nil _)
  have lines : shown (textLines document.text) =
      document.blocks.flatMap fun block => shown (block.lines.map Line.seen) := by
    rw [SectionedDocument.text, textLines_join single, List.map_append, shown_append, shown_append,
      shown_fillers, shown_skipped blank, List.map_flatMap, shown, List.filter_flatMap]
    simp [shown]
  rw [parseSections_eq_ok_iff, lines]
  exact Bracketed.flatMap fun block _ => block.bracketed

/-! ## Documents -/

/-- Documents come back whole, in either format. -/
theorem parse_written :
    (∀ document : PlainDocument, parsePlain document.text = .ok document.assignments) ∧
      ∀ document : SectionedDocument, parseSections document.text = .ok document.sections :=
  ⟨parsePlain_text, parseSections_text⟩

end ClockBoard.Listing
