import ClockBoard.Proofs.Listing.Rendering
import ClockBoard.Proofs.Text.Blank

/-!
What is read of single lines. A line comes back as it was written, but for a carriage return at its
end, and is of the kind that it was written as.

The main statements say which kind each line is of, and that a data line gives its assignment.
-/

namespace ClockBoard.Listing

/-! ## Splitting -/

theorem splitLines_line {content : List Char} (single : '\n' ∉ content) (rest : List Char) :
    splitLines (content ++ '\n' :: rest) = content :: splitLines rest := by
  induction content with
  | nil => rfl
  | cons char content induction =>
      have other : char ≠ '\n' := fun same => single (same ▸ List.mem_cons_self)
      have later : '\n' ∉ content := fun member => single (List.mem_cons_of_mem _ member)
      rw [List.cons_append, splitLines, induction later]
      exact other

def Line.seen (line : Line) : List Char :=
  match line.2 with
  | .feed => stripReturn line.1
  | .returnFeed => line.1

theorem stripReturn_return (content : List Char) : stripReturn (content ++ ['\r']) = content := by
  simp [stripReturn]

theorem Line.seen_cases (line : Line) : line.1 = line.seen ∨ line.1 = line.seen ++ ['\r'] := by
  rcases line with ⟨content, ending⟩
  cases ending with
  | returnFeed => exact .inl rfl
  | feed =>
      by_cases returned : content.getLast? = some '\r'
      · right
        rcases List.getLast?_eq_some_iff.mp returned with ⟨front, rfl⟩
        exact congrArg (· ++ ['\r']) (stripReturn_return front).symm
      · left
        exact (if_neg returned).symm

theorem Line.seen_of_last {line : Line} (last : line.1.getLast? ≠ some '\r') :
    line.seen = line.1 := by
  rcases line with ⟨content, ending⟩
  cases ending with
  | feed => exact if_neg last
  | returnFeed => rfl

theorem splitLines_join {lines : List Line} (single : ∀ line ∈ lines, '\n' ∉ line.1) :
    (splitLines (joinLines lines).toList).map stripReturn = lines.map Line.seen ++ [[]] := by
  rw [joinLines, String.toList_ofList]
  induction lines with
  | nil => rfl
  | cons line rest induction =>
      have later := induction fun other member => single other (List.mem_cons_of_mem _ member)
      have own : '\n' ∉ line.1 := single line List.mem_cons_self
      rcases line with ⟨content, ending⟩
      rw [List.flatMap_cons, List.append_assoc, List.map_cons, List.cons_append, ← later]
      cases ending with
      | feed =>
          rw [Ending.text, List.cons_append, List.nil_append, splitLines_line own]
          rfl
      | returnFeed =>
          have whole (below : List Char) : content ++ (Ending.returnFeed.text ++ below) =
              (content ++ ['\r']) ++ '\n' :: below := by
            simp [Ending.text]
          rw [whole, splitLines_line (by simp [own]), List.map_cons, stripReturn_return]
          rfl

/-! ## Spaces and words -/

theorem isSpace_iff {char : Char} : isSpace char = true ↔ char = ' ' ∨ char = '\t' := by
  simp [isSpace]

theorem skipSpaces_gap (gap : Gap) (rest : List Char) :
    skipSpaces (gap.text ++ rest) = skipSpaces rest :=
  List.dropWhile_append_of_pos fun char member => isSpace_iff.mpr (gap.spaces char member)

theorem skipSpaces_text (gap : Gap) : skipSpaces gap.text = [] := by
  simpa [skipSpaces] using skipSpaces_gap gap []

theorem skipSpaces_of_head {text : List Char}
    (head : ∀ char, text.head? = some char → isSpace char = false) : skipSpaces text = text := by
  cases text with
  | nil => rfl
  | cons char rest => simp [skipSpaces, head char rfl]

theorem afterWord?_word (word rest : List Char) : afterWord? word (word ++ rest) = some rest := by
  induction word with
  | nil => rfl
  | cons char word induction => simpa [afterWord?] using induction

theorem afterWord?_eq_some {word text rest : List Char} (read : afterWord? word text = some rest) :
    text = word ++ rest := by
  induction word generalizing text with
  | nil => exact Option.some.inj read
  | cons expected word induction =>
      cases text with
      | nil => cases read
      | cons char text =>
          rw [afterWord?] at read
          split at read
          · rename_i same
            rw [same, induction read, List.cons_append]
          · cases read

/-! ## Numbers -/

/-- Whether a text goes on with what may stand behind a number. -/
def Stops (rest : List Char) : Prop :=
  ∀ char, rest.head? = some char → char = ' ' ∨ char = '\t' ∨ char = ','

theorem Stops.head {rest : List Char} (stops : Stops rest) (condition : Char → Bool)
    (off : condition ' ' = false ∧ condition '\t' = false ∧ condition ',' = false) :
    ∀ char, rest.head? = some char → condition char = false := by
  intro char first
  rcases stops char first with rfl | rfl | rfl
  · exact off.1
  · exact off.2.1
  · exact off.2.2

theorem Stops.comma (rest : List Char) : Stops (',' :: rest) := by
  intro char first
  exact .inr (.inr (Option.some.inj first).symm)

theorem Gap.stops (gap : Gap) : Stops gap.text := by
  intro char first
  exact (gap.spaces char (List.mem_of_mem_head? first)).imp id .inl

theorem Stops.gap (gap : Gap) {rest : List Char} (stops : Stops rest) :
    Stops (gap.text ++ rest) := by
  intro char first
  cases chars : gap.text with
  | nil => exact stops char (by simpa [chars] using first)
  | cons space others =>
      have same : space = char := by simpa [chars] using first
      have member : char ∈ gap.text := by simp [chars, same]
      exact (gap.spaces char member).imp id .inl

theorem dropHexMarker_plain {text : List Char}
    (second : ∀ char, text[1]? = some char → char ≠ 'x' ∧ char ≠ 'X') :
    dropHexMarker text = text := by
  unfold dropHexMarker
  split
  · exact absurd rfl (second 'x' rfl).1
  · exact absurd rfl (second 'X' rfl).2
  · rfl

theorem dropHexMarker_numeral {number : Nat} (numeral : Numeral number) {rest : List Char}
    (stops : Stops rest) : dropHexMarker (numeral.text ++ rest) = numeral.digits ++ rest := by
  rcases numeral with ⟨marker, digits, spells⟩
  cases marker with
  | lower => rfl
  | upper => rfl
  | none =>
      refine dropHexMarker_plain ?_
      intro char second
      cases digits with
      | nil => exact absurd rfl spells.ne_nil
      | cons first others =>
          cases others with
          | nil =>
              have next : rest.head? = some char := by
                simpa [Numeral.text, HexMarker.text, List.head?_eq_getElem?] using second
              rcases stops char next with rfl | rfl | rfl <;> decide
          | cons digit others =>
              have same : digit = char := by simpa [Numeral.text, HexMarker.text] using second
              have hex := spells.isHexDigit char (by simp [same])
              constructor
              · rintro rfl
                exact absurd hex (by decide)
              · rintro rfl
                exact absurd hex (by decide)

theorem hexNumber?_numeral {number limit : Nat} (numeral : Numeral number) (small : number ≤ limit)
    {rest : List Char} (stops : Stops rest) :
    hexNumber? limit (numeral.text ++ rest) = some (number, rest) := by
  have digits := numeral.spells.isHexDigit
  rcases Text.dropWhile_off (stops.head Text.isHexDigit (by decide)) with ⟨none, all⟩
  rw [hexNumber?, dropHexMarker_numeral numeral stops, List.takeWhile_append_of_pos digits,
    List.dropWhile_append_of_pos digits, none, all, List.append_nil, numeral.spells.natural?]
  exact if_pos small

/-! ## Data lines -/

def rowCharacter (char : Char) : Bool :=
  Text.isHexDigit char || isSpace char || char == ',' || char == 'x' || char == 'X'

theorem Gap.rowCharacter (gap : Gap) : ∀ char ∈ gap.text, rowCharacter char = true := by
  intro char member
  rcases gap.spaces char member with rfl | rfl <;> decide

theorem Numeral.characters {number : Nat} (numeral : Numeral number) :
    ∀ char ∈ numeral.text, Text.isHexDigit char = true ∨ char = 'x' ∨ char = 'X' := by
  intro char member
  rcases List.mem_append.mp member with marker | digit
  · cases form : numeral.marker with
    | none => simp [form, HexMarker.text] at marker
    | lower =>
        simp only [form, HexMarker.text, List.mem_cons, List.not_mem_nil, or_false] at marker
        rcases marker with rfl | rfl
        · exact .inl (by decide)
        · exact .inr (.inl rfl)
    | upper =>
        simp only [form, HexMarker.text, List.mem_cons, List.not_mem_nil, or_false] at marker
        rcases marker with rfl | rfl
        · exact .inl (by decide)
        · exact .inr (.inr rfl)
  · exact .inl (numeral.spells.isHexDigit char digit)

theorem Numeral.rowCharacter {number : Nat} (numeral : Numeral number) :
    ∀ char ∈ numeral.text, rowCharacter char = true := by
  intro char member
  rcases numeral.characters char member with digit | rfl | rfl
  · simp [Listing.rowCharacter, digit]
  · decide
  · decide

theorem Row.rowCharacter (row : Row) : ∀ char ∈ row.text, rowCharacter char = true := by
  simp only [Row.text, List.forall_mem_append]
  have comma : ∀ char ∈ [','], Listing.rowCharacter char = true :=
    List.forall_mem_singleton.mpr (by decide)
  exact ⟨⟨⟨⟨⟨⟨row.indent.rowCharacter, row.address.rowCharacter⟩, row.beforeComma.rowCharacter⟩,
    comma⟩, row.afterComma.rowCharacter⟩, row.value.rowCharacter⟩, row.trailing.rowCharacter⟩

theorem Numeral.unspaced {number : Nat} (numeral : Numeral number) :
    ∀ char ∈ numeral.text, isSpace char = false := by
  intro char member
  rcases numeral.characters char member with digit | rfl | rfl
  · by_contra spaced
    rw [Bool.not_eq_false, isSpace_iff] at spaced
    rcases spaced with rfl | rfl <;> revert digit <;> decide
  · decide
  · decide

theorem skipSpaces_numeral {number : Nat} (gap : Gap) (numeral : Numeral number)
    (rest : List Char) :
    skipSpaces (gap.text ++ (numeral.text ++ rest)) = numeral.text ++ rest := by
  rw [skipSpaces_gap]
  apply skipSpaces_of_head
  intro char first
  have some : numeral.text ≠ [] := List.append_ne_nil_of_right_ne_nil _ numeral.spells.ne_nil
  rw [List.head?_append_of_ne_nil _ some] at first
  exact numeral.unspaced char (List.mem_of_mem_head? first)

theorem assignment?_row (row : Row) : assignment? row.text = some row.assignment := by
  have comma := Stops.comma (row.afterComma.text ++ (row.value.text ++ row.trailing.text))
  have whole : row.text = row.indent.text ++ (row.address.text ++ (row.beforeComma.text ++
      ',' :: (row.afterComma.text ++ (row.value.text ++ row.trailing.text)))) := by
    simp [Row.text]
  have address := hexNumber?_numeral row.address
    (Nat.le_of_lt_succ row.assignment.address.toNat_lt) (comma.gap row.beforeComma)
  have value := hexNumber?_numeral row.value
    (Nat.le_of_lt_succ row.assignment.value.toNat_lt) row.trailing.stops
  have between : skipSpaces (row.beforeComma.text ++ ',' :: (row.afterComma.text ++
      (row.value.text ++ row.trailing.text))) =
      ',' :: (row.afterComma.text ++ (row.value.text ++ row.trailing.text)) :=
    skipSpaces_gap _ _
  rw [assignment?, whole, skipSpaces_numeral]
  simp [address, between, skipSpaces_numeral, value, skipSpaces_text, afterWord?]

/-! ## Edges of sections -/

theorem skipSpaces_gap_append (text : List Char) :
    ∃ gap : Gap, text = gap.text ++ skipSpaces text := by
  refine ⟨⟨text.takeWhile isSpace, ?_⟩, List.takeWhile_append_dropWhile.symm⟩
  intro char member
  exact isSpace_iff.mp (List.all_eq_true.mp List.all_takeWhile char member)

theorem skipSpaces?_eq_some {text rest : List Char} (read : skipSpaces? text = some rest) :
    (∃ gap : Gap, gap.text ≠ [] ∧ text = gap.text ++ rest) ∧
      ∀ char, rest.head? = some char → isSpace char = false := by
  cases text with
  | nil => cases read
  | cons char others =>
      rw [skipSpaces?] at read
      split at read
      · rename_i space
        cases read
        apply And.intro _ (Text.head_dropWhile isSpace others)
        rcases skipSpaces_gap_append others with ⟨gap, joined⟩
        refine ⟨⟨char :: gap.text, ?_⟩, List.cons_ne_nil _ _, congrArg (char :: ·) joined⟩
        intro other member
        rcases List.mem_cons.mp member with rfl | member
        · exact isSpace_iff.mp space
        · exact gap.spaces other member
      · cases read

theorem skipSpaces?_gap (gap : Gap) (wide : gap.text ≠ []) (rest : List Char) :
    skipSpaces? (gap.text ++ rest) = some (skipSpaces rest) := by
  cases chars : gap.text with
  | nil => exact absurd chars wide
  | cons space others =>
      have spaced : isSpace space = true :=
        isSpace_iff.mpr (gap.spaces space (by simp [chars]))
      have skipped := skipSpaces_gap gap rest
      rw [chars, List.cons_append, skipSpaces, List.dropWhile_cons_of_pos spaced] at skipped
      rw [List.cons_append, skipSpaces?, if_pos spaced, ← skipped]
      rfl

theorem edgeLine_of_markedName? {edge name : String} {line : List Char}
    (read : markedName? edge line = some name) :
    ∃ written : EdgeLine edge name, written.text = line := by
  simp only [markedName?, Option.bind_eq_bind, Option.bind_eq_some_iff] at read
  obtain ⟨hashed, hash, afterEdge, edged, spaced, between, afterWord, word, rest, after, named⟩ :=
    read
  cases named
  obtain ⟨front, joined⟩ := skipSpaces_gap_append hashed
  obtain ⟨⟨gap, wide, edgeSplit⟩, _⟩ := skipSpaces?_eq_some between
  obtain ⟨⟨last, wideToo, wordSplit⟩, unspaced⟩ := skipSpaces?_eq_some after
  obtain ⟨⟨trailing, trimmed, blank⟩, shown⟩ := Text.trimEnd_cases rest
  generalize Text.trimEnd rest = name at trimmed shown ⊢
  cases trimmed
  refine ⟨{
    before := front
    between := gap
    after := last
    trailing
    apart := ⟨wide, wideToo⟩
    unspaced := ?_
    trimmed := by simpa using shown
    blank }, ?_⟩
  · intro char first
    rw [String.toList_ofList] at first
    have other : isSpace char = false := unspaced char (by simp [first])
    rw [Bool.eq_false_iff, ne_eq, isSpace_iff, not_or] at other
    exact other
  · rw [afterWord?_eq_some edged, edgeSplit, afterWord?_eq_some word, wordSplit] at joined
    rw [afterWord?_eq_some hash, joined]
    simp [EdgeLine.text]

theorem EdgeLine.marks {edge name : String} (line : EdgeLine edge name) :
    Marks edge line.text := by
  refine ⟨line.before, line.between, line.after, name.toList ++ line.trailing, line.apart.1,
    line.apart.2, ?_⟩
  simp [EdgeLine.text]

theorem marks_of_markedName? {edge name : String} {line : List Char}
    (read : markedName? edge line = some name) : Marks edge line := by
  obtain ⟨written, same⟩ := edgeLine_of_markedName? read
  exact same ▸ written.marks

theorem Marks.append {edge : String} {line : List Char} (marks : Marks edge line)
    (more : List Char) : Marks edge (line ++ more) := by
  rcases marks with ⟨before, between, after, rest, wide, wideToo, rfl⟩
  exact ⟨before, between, after, rest ++ more, wide, wideToo, by simp⟩

theorem markedName?_edgeLine {edge name : String} (line : EdgeLine edge name)
    (proper : ∀ rest char, (edge.toList ++ rest).head? = some char → isSpace char = false) :
    markedName? edge line.text = some name := by
  have whole : line.text = ['#'] ++ (line.before.text ++ (edge.toList ++ (line.between.text ++
      ("configuration".toList ++ (line.after.text ++ (name.toList ++ line.trailing)))))) := by
    simp [EdgeLine.text]
  have front (rest : List Char) : skipSpaces (edge.toList ++ rest) = edge.toList ++ rest :=
    skipSpaces_of_head (proper rest)
  have word (rest : List Char) :
      skipSpaces ("configuration".toList ++ rest) = "configuration".toList ++ rest := rfl
  -- Where there is no name, the spaces among the blanks are skipped already.
  have named : Text.trimEnd (skipSpaces (name.toList ++ line.trailing)) = name.toList := by
    cases chars : name.toList with
    | nil =>
        change Text.trimEnd ([] ++ skipSpaces line.trailing) = []
        apply Text.trimEnd_append
        · nofun
        · intro char member
          exact line.blank char ((List.dropWhile_sublist isSpace).subset member)
    | cons first others =>
        have other := line.unspaced first (by simp [chars])
        have unspaced : isSpace first = false := by
          rw [Bool.eq_false_iff, ne_eq, isSpace_iff]
          exact not_or.mpr other
        rw [List.cons_append, skipSpaces, List.dropWhile_cons_of_neg (by simp [unspaced]),
          ← List.cons_append, ← chars]
        exact Text.trimEnd_append line.trimmed line.blank
  simp only [markedName?, whole, afterWord?_word, skipSpaces_gap, front, word,
    skipSpaces?_gap _ line.apart.1, skipSpaces?_gap _ line.apart.2, Option.bind_eq_bind,
    Option.bind_some, named, String.ofList_toList]
  rfl

theorem markedName?_startLine {name : String} (line : EdgeLine "Start" name) :
    markedName? "Start" line.text = some name :=
  markedName?_edgeLine line fun _ _ first => by cases first; decide

theorem markedName?_endLine {name : String} (line : EdgeLine "End" name) :
    markedName? "End" line.text = some name :=
  markedName?_edgeLine line fun _ _ first => by cases first; decide

theorem markedName?_other {name : String} (line : EdgeLine "End" name) :
    markedName? "Start" line.text = none := by
  have whole : line.text = ['#'] ++ (line.before.text ++ ("End".toList ++ (line.between.text ++
      ("configuration".toList ++ (line.after.text ++ (name.toList ++ line.trailing)))))) := by
    simp [EdgeLine.text]
  simp only [markedName?, whole, afterWord?_word, skipSpaces_gap, Option.bind_eq_bind,
    Option.bind_some]
  rfl

/-! ## Kinds -/

theorem ofLine_blank {text : List Char} (blank : ∀ char ∈ text, Text.isBlank char = true) :
    LineKind.ofLine text = .blank :=
  if_pos (List.all_eq_true.mpr blank)

theorem hash_dark (rest : List Char) : ('#' :: rest).all Text.isBlank = false := by
  have hash : Text.isBlank '#' = false := by decide
  simp [hash]

theorem ofLine_hash (rest : List Char) :
    (∃ name, LineKind.ofLine ('#' :: rest) = .sectionStart name) ∨
      (∃ name, LineKind.ofLine ('#' :: rest) = .sectionEnd name) ∨
        LineKind.ofLine ('#' :: rest) = .comment := by
  rw [LineKind.ofLine, hash_dark, if_neg Bool.false_ne_true]
  split
  · exact .inl ⟨_, rfl⟩
  · split
    · exact .inr (.inl ⟨_, rfl⟩)
    · exact .inr (.inr rfl)

theorem markedName?_unmarked {edge : String} {line : List Char} (unmarked : ¬Marks edge line) :
    markedName? edge line = none := by
  cases read : markedName? edge line with
  | none => rfl
  | some name => exact absurd (marks_of_markedName? read) unmarked

theorem ofLine_comment {rest : List Char}
    (unmarked : ¬Marks "Start" ('#' :: rest) ∧ ¬Marks "End" ('#' :: rest)) :
    LineKind.ofLine ('#' :: rest) = .comment := by
  rw [LineKind.ofLine, hash_dark, if_neg Bool.false_ne_true, markedName?_unmarked unmarked.1,
    markedName?_unmarked unmarked.2]
  rfl

theorem ofLine_unhashed {text : List Char} {char : Char} (unhashed : '#' ∉ text)
    (shown : char ∈ text) (dark : Text.isBlank char = false) :
    LineKind.ofLine text = if isHeader text then .header else .data := by
  have visible : text.all Text.isBlank = false := by
    rw [List.all_eq_false]
    exact ⟨char, shown, by simp [dark]⟩
  have unmarked (edge : String) : markedName? edge text = none := by
    apply markedName?_unmarked
    rintro ⟨_, _, _, _, _, _, rfl⟩
    exact unhashed List.mem_cons_self
  have first : text.head? ≠ some '#' := fun hash => unhashed (List.mem_of_mem_head? hash)
  simp [LineKind.ofLine, visible, unmarked, first]

theorem isHeader_header (header : Header) : isHeader header.text = true := by
  have word : skipSpaces header.text = "Address,Data".toList ++ header.trailing.text := by
    rw [Header.text, List.append_assoc, skipSpaces_gap]
    rfl
  simp only [isHeader, word, afterWord?_word, skipSpaces_text]
  rfl

theorem Header.characters (header : Header) :
    ∀ char ∈ header.text, char ≠ '\n' ∧ char ≠ '\r' ∧ char ≠ '#' := by
  have gap (gap : Gap) : ∀ char ∈ gap.text, char ≠ '\n' ∧ char ≠ '\r' ∧ char ≠ '#' := by
    intro char member
    rcases gap.spaces char member with rfl | rfl <;> decide
  simp only [Header.text, List.forall_mem_append]
  exact ⟨⟨gap header.indent, by simp⟩, gap header.trailing⟩

theorem ofLine_header (header : Header) : LineKind.ofLine header.text = .header := by
  have shown : 'A' ∈ header.text := by simp [Header.text]
  have unhashed : '#' ∉ header.text := fun member => (header.characters '#' member).2.2 rfl
  rw [ofLine_unhashed unhashed shown (by decide), if_pos (isHeader_header header)]

/-- There is an r in a header, and none in a data line. -/
theorem isHeader_row (row : Row) : isHeader row.text = false := by
  cases read : afterWord? "Address,Data".toList (skipSpaces row.text) with
  | none => rw [isHeader, read]
  | some rest =>
      have member : 'r' ∈ skipSpaces row.text := by
        rw [afterWord?_eq_some read]
        exact List.mem_append_left _ (by decide)
      have inside := (List.dropWhile_sublist isSpace).subset member
      exact absurd (row.rowCharacter 'r' inside) (by decide)

theorem ofLine_row (row : Row) : LineKind.ofLine row.text = .data := by
  have unhashed : '#' ∉ row.text := fun member =>
    absurd (row.rowCharacter '#' member) (by decide)
  have shown : ',' ∈ row.text := by simp [Row.text]
  rw [ofLine_unhashed unhashed shown (by decide), isHeader_row]
  rfl

theorem ofLine_startLine {name : String} (line : EdgeLine "Start" name) :
    LineKind.ofLine line.text = .sectionStart name := by
  have shown : line.text.all Text.isBlank = false := hash_dark _
  simp [LineKind.ofLine, shown, markedName?_startLine line]

theorem ofLine_endLine {name : String} (line : EdgeLine "End" name) :
    LineKind.ofLine line.text = .sectionEnd name := by
  have shown : line.text.all Text.isBlank = false := hash_dark _
  simp [LineKind.ofLine, shown, markedName?_endLine line, markedName?_other line]

def SectionName.edge (edge : String) (name : SectionName) : EdgeLine edge name.name :=
  let space : Gap := { text := [' '], spaces := by simp }
  { name with
    before := space
    between := space
    after := space
    trailing := []
    apart := ⟨List.cons_ne_nil _ _, List.cons_ne_nil _ _⟩
    blank := nofun }

theorem SectionName.edge_text (edge : String) (name : SectionName) :
    (name.edge edge).text = Block.edgeText edge name := by
  simp [Block.edgeText, EdgeLine.text, SectionName.edge]

end ClockBoard.Listing
