import Mathlib.Algebra.BigOperators.Group.List.Basic
import Mathlib.Algebra.GroupWithZero.Nat
import Mathlib.Data.List.Nodup
import Mathlib.Tactic.Choose
import ClockBoard.Listing.Sectioned
import ClockBoard.Proofs.Listing.Brackets

/-!
Three sections count in a sectioned listing, and each has to be there once. They are found by their
names, wherever they stand and whatever stands between them.

The main statement says which sections are chosen out of a list, and what is wrong if none are: that
one comes again, or else that one is missing. Where they are chosen, their order does not matter,
neither in a list nor in a text.
-/

namespace ClockBoard.Listing

/-- Whether no section that counts comes twice. -/
def Single (sections : List Section) : Prop :=
  ∀ name ∈ requiredNames, (sections.map Section.name).count name ≤ 1

def wanted (sections : List Section) : List Section :=
  sections.filter (·.name ∈ requiredNames)

def Sectioned.parts (listing : Sectioned) : List Section :=
  [{ name := preambleName, assignments := listing.preamble },
    { name := registersName, assignments := listing.registers },
    { name := postambleName, assignments := listing.postamble }]

/-- What is chosen out of some sections, or what is wrong with them. -/
inductive Selection (sections : List Section) : Except Error Sectioned → Prop
  | chosen {listing : Sectioned}
      (once : ∀ name ∈ requiredNames, (sections.map Section.name).count name = 1)
      (held : ∀ part ∈ listing.parts, part ∈ sections) :
      Selection sections (.ok listing)
  | repeated {front back : List Section} {again : Section}
      (split : sections = front ++ again :: back) (single : Single front)
      (required : again.name ∈ requiredNames) (seen : again.name ∈ front.map Section.name) :
      Selection sections (.error (.duplicateSection again.name))
  | missing {name : String} (single : Single sections)
      (first : requiredNames.find? (· ∉ sections.map Section.name) = some name) :
      Selection sections (.error (.missingSection name))

/-! ## Sections that come again -/

namespace Sectioned

section Repeated

variable {front back sections : List Section} {again : Section}

theorem firstRepeated?_front (seen : List String)
    (single : ∀ name ∈ requiredNames, (seen ++ front.map Section.name).count name ≤ 1)
    (back : List Section) :
    ∃ passed, firstRepeated? seen (front ++ back) = firstRepeated? passed back ∧
      ∀ name ∈ requiredNames, name ∈ passed ↔ name ∈ seen ++ front.map Section.name := by
  induction front generalizing seen with
  | nil => exact ⟨seen, rfl, by simp⟩
  | cons candidate front induction =>
      rw [List.map_cons] at single ⊢
      rw [List.cons_append, firstRepeated?]
      by_cases required : candidate.name ∈ requiredNames
      · have fresh : candidate.name ∉ seen := by
          intro member
          have counted := single candidate.name required
          have before : 0 < seen.count candidate.name := List.count_pos_iff.mpr member
          rw [List.count_append, List.count_cons_self] at counted
          omega
        have later : ∀ name ∈ requiredNames,
            (candidate.name :: seen ++ front.map Section.name).count name ≤ 1 := by
          intro name member
          rw [List.cons_append, ← List.perm_middle.count_eq]
          exact single name member
        rcases induction _ later with ⟨passed, same, remembered⟩
        refine ⟨passed, ?_, ?_⟩
        · rw [if_neg (not_not.mpr required), if_neg fresh, same]
        · intro name member
          rw [remembered name member, List.cons_append, ← List.perm_middle.mem_iff]
      · have later : ∀ name ∈ requiredNames,
            (seen ++ front.map Section.name).count name ≤ 1 := by
          intro name member
          have shorter := List.sublist_cons_self candidate.name (front.map Section.name)
          exact Nat.le_trans ((shorter.append_left seen).count_le name) (single name member)
        rcases induction _ later with ⟨passed, same, remembered⟩
        refine ⟨passed, ?_, ?_⟩
        · rw [if_pos required, same]
        · intro name member
          have other : name ≠ candidate.name := fun same => required (same ▸ member)
          rw [remembered name member]
          simp [other]

theorem firstRepeated?_single (single : Single sections) : firstRepeated? [] sections = none := by
  rcases firstRepeated?_front [] single [] with ⟨passed, same, _⟩
  rw [List.append_nil] at same
  exact same

theorem firstRepeated?_again (single : Single front) (required : again.name ∈ requiredNames)
    (seen : again.name ∈ front.map Section.name) :
    firstRepeated? [] (front ++ again :: back) = some again.name := by
  rcases firstRepeated?_front [] single (again :: back) with ⟨passed, same, remembered⟩
  have before : again.name ∈ passed := (remembered again.name required).mpr seen
  rw [same, firstRepeated?, if_neg (not_not.mpr required), if_pos before]

theorem single_or_repeated (sections : List Section) :
    Single sections ∨ ∃ front again back, sections = front ++ again :: back ∧ Single front ∧
      again.name ∈ requiredNames ∧ again.name ∈ front.map Section.name := by
  induction sections using List.reverseRecOn with
  | nil => exact .inl (by simp [Single])
  | append_singleton sections last induction =>
      rcases induction with single | ⟨front, again, back, split, single, required, seen⟩
      · by_cases repeated : last.name ∈ requiredNames ∧ last.name ∈ sections.map Section.name
        · exact .inr ⟨sections, last, [], rfl, single, repeated⟩
        · left
          intro name required
          rw [List.map_append, List.map_singleton, List.count_append]
          by_cases same : last.name = name
          · have fresh : last.name ∉ sections.map Section.name := by
              intro member
              exact repeated ⟨same ▸ required, member⟩
            have absent := same ▸ List.count_eq_zero.mpr fresh
            simp [absent, same]
          · rw [List.count_singleton, if_neg (by simpa using same)]
            exact single name required
      · exact .inr ⟨front, again, back ++ [last], by simp [split], single, required, seen⟩

end Repeated

/-! ## Sections by their names -/

section Pick

variable {sections : List Section} {name : String}

theorem eq_of_name (single : (sections.map Section.name).count name ≤ 1) {one two : Section}
    (member : one ∈ sections) (memberToo : two ∈ sections) (named : one.name = name)
    (namedToo : two.name = name) : one = two := by
  induction sections with
  | nil => cases member
  | cons first rest induction =>
      rw [List.map_cons, List.count_cons] at single
      have alone (other : Section) (inside : other ∈ rest) (same : other.name = name) :
          first.name ≠ name := by
        intro firstName
        have counted : 0 < (rest.map Section.name).count name :=
          List.count_pos_iff.mpr (List.mem_map.mpr ⟨other, inside, same⟩)
        simp [firstName] at single
        omega
      rcases List.mem_cons.mp member with rfl | inside
      · rcases List.mem_cons.mp memberToo with rfl | insideToo
        · rfl
        · exact absurd named (alone two insideToo namedToo)
      · rcases List.mem_cons.mp memberToo with rfl | insideToo
        · exact absurd namedToo (alone one inside named)
        · exact induction (by omega) inside insideToo

theorem pick_of_mem (single : (sections.map Section.name).count name ≤ 1)
    {assignments : List Assignment} (member : { name, assignments } ∈ sections) :
    pick sections name = .ok assignments := by
  rw [pick]
  cases read : sections.find? fun candidate => candidate.name == name with
  | none =>
      have unnamed := List.find?_eq_none.mp read _ member
      simp at unnamed
  | some found =>
      have named : found.name = name := by simpa using List.find?_some read
      rw [eq_of_name single (List.mem_of_find?_eq_some read) member named rfl]

theorem pick_of_not_mem (absent : name ∉ sections.map Section.name) :
    pick sections name = .error (.missingSection name) := by
  rw [pick]
  cases read : sections.find? fun candidate => candidate.name == name with
  | none => rfl
  | some found =>
      have named : found.name = name := by simpa using List.find?_some read
      exact absurd (List.mem_map.mpr ⟨found, List.mem_of_find?_eq_some read, named⟩) absent

theorem exists_of_name (present : name ∈ sections.map Section.name) :
    ∃ assignments, { name, assignments } ∈ sections := by
  rcases List.mem_map.mp present with ⟨found, member, rfl⟩
  exact ⟨found.assignments, member⟩

end Pick

end Sectioned

/-! ## What is chosen -/

section Selection

variable {sections other : List Section} {listing : Sectioned}

open Sectioned

/-- The first section that is missing is at fault, whether or not the later ones are there. -/
theorem ofSections_missing {name : String} (single : Single sections)
    (first : requiredNames.find? (· ∉ sections.map Section.name) = some name) :
    ofSections sections = .error (.missingSection name) := by
  rw [ofSections, firstRepeated?_single single]
  simp only [requiredNames, List.find?_cons, List.find?_nil] at first
  by_cases own : preambleName ∈ sections.map Section.name
  · rcases exists_of_name own with ⟨preamble, ownMember⟩
    by_cases main : registersName ∈ sections.map Section.name
    · rcases exists_of_name main with ⟨registers, mainMember⟩
      by_cases last : postambleName ∈ sections.map Section.name
      · simp [own, main, last] at first
      · have same : postambleName = name := by simpa [own, main, last] using first
        simp only [pick_of_mem (single _ (by decide)) ownMember,
          pick_of_mem (single _ (by decide)) mainMember, pick_of_not_mem last]
        exact same ▸ rfl
    · have same : registersName = name := by simpa [own, main] using first
      simp only [pick_of_mem (single _ (by decide)) ownMember, pick_of_not_mem main]
      exact same ▸ rfl
  · have same : preambleName = name := by simpa [own] using first
    simp only [pick_of_not_mem own]
    exact same ▸ rfl

theorem Selection.result {result : Except Error Sectioned}
    (selection : Selection sections result) : ofSections sections = result := by
  cases selection with
  | chosen once held =>
      have single : Single sections := fun name required => Nat.le_of_eq (once name required)
      rw [ofSections, firstRepeated?_single single]
      simp only [parts, List.forall_mem_cons] at held
      simp only [pick_of_mem (single _ (by decide)) held.1,
        pick_of_mem (single _ (by decide)) held.2.1, pick_of_mem (single _ (by decide)) held.2.2.1]
      rfl
  | repeated split single required seen =>
      rw [ofSections, split, firstRepeated?_again single required seen]
  | missing single first => exact ofSections_missing single first

theorem exists_selection (sections : List Section) : ∃ result, Selection sections result := by
  rcases single_or_repeated sections with
    single | ⟨front, again, back, split, single, required, seen⟩
  · cases first : requiredNames.find? (· ∉ sections.map Section.name) with
    | some name => exact ⟨_, .missing single first⟩
    | none =>
        have present : ∀ name ∈ requiredNames, name ∈ sections.map Section.name := by
          simpa using List.find?_eq_none.mp first
        have once : ∀ name ∈ requiredNames, (sections.map Section.name).count name = 1 := by
          intro name required
          have some := List.count_pos_iff.mpr (present name required)
          exact Nat.le_antisymm (single name required) some
        rcases exists_of_name (present preambleName (by decide)) with ⟨preamble, own⟩
        rcases exists_of_name (present registersName (by decide)) with ⟨registers, main⟩
        rcases exists_of_name (present postambleName (by decide)) with ⟨postamble, last⟩
        refine ⟨.ok { preamble, registers, postamble }, .chosen once ?_⟩
        simp [parts, own, main, last]
  · exact ⟨_, .repeated split single required seen⟩

theorem ofSections_eq_iff {result : Except Error Sectioned} :
    ofSections sections = result ↔ Selection sections result := by
  constructor
  · intro read
    rcases exists_selection sections with ⟨other, selection⟩
    exact selection.result.symm.trans read ▸ selection
  · exact Selection.result

theorem Selection.perm (selection : Selection sections (.ok listing))
    (perm : sections.Perm other) : Selection other (.ok listing) := by
  cases selection with
  | chosen once held =>
      refine .chosen ?_ fun part member => perm.mem_iff.mp (held part member)
      intro name required
      rw [← (perm.map Section.name).count_eq]
      exact once name required

theorem ofSections_perm (perm : sections.Perm other) :
    ofSections sections = .ok listing ↔ ofSections other = .ok listing := by
  rw [ofSections_eq_iff, ofSections_eq_iff]
  constructor
  · exact fun selection => selection.perm perm
  · exact fun selection => selection.perm perm.symm

theorem nodup_wanted (once : ∀ name ∈ requiredNames, (sections.map Section.name).count name = 1) :
    ((wanted sections).map Section.name).Nodup := by
  rw [List.nodup_iff_count_eq_one]
  intro name member
  rcases List.mem_map.mp member with ⟨found, inside, rfl⟩
  have counts : found.name ∈ requiredNames := by simpa [wanted] using (List.mem_filter.mp inside).2
  have sublist : ((wanted sections).map Section.name).Sublist (sections.map Section.name) :=
    List.filter_sublist.map Section.name
  have few := sublist.count_le found.name
  have some := List.count_pos_iff.mpr member
  rw [once found.name counts] at few
  exact Nat.le_antisymm few some

theorem Selection.wanted_perm (selection : Selection sections (.ok listing)) :
    (wanted sections).Perm listing.parts := by
  cases selection with
  | chosen once held =>
      have names : listing.parts.map Section.name = requiredNames := rfl
      have distinct : (listing.parts.map Section.name).Nodup := names ▸ by decide
      apply (List.perm_ext_iff_of_nodup (List.Nodup.of_map _ (nodup_wanted once))
        (List.Nodup.of_map _ distinct)).mpr
      intro candidate
      simp only [wanted, List.mem_filter, decide_eq_true_eq]
      constructor
      · intro counts
        rcases counts with ⟨inside, counts⟩
        rcases List.mem_map.mp (names ▸ counts) with ⟨part, member, same⟩
        have only : part = candidate :=
          eq_of_name (Nat.le_of_eq (once _ counts)) (held part member) inside same rfl
        exact only ▸ member
      · intro member
        exact ⟨held candidate member, names ▸ List.mem_map_of_mem member⟩

theorem length_ofSections (read : ofSections sections = .ok listing) :
    listing.length = ((wanted sections).map (·.assignments.length)).sum := by
  have perm := (ofSections_eq_iff.mp read).wanted_perm
  rw [(perm.map (·.assignments.length)).sum_eq]
  simp [length, parts, Nat.add_assoc]

end Selection

/-! ## Texts -/

/-- Whether a text shows blocks, one below the other. -/
def Shows (text : String) (blocks : List (List (List Char))) : Prop :=
  shown (textLines text) = blocks.flatten ∧
    ∀ block ∈ blocks, ∃ contents, Bracketed block [contents]

section Blocks

variable {lines below : List (List Char)} {sections later : List Section}
  {blocks others : List (List (List Char))} {text other : String} {listing : Sectioned}

theorem Bracketed.exists_blocks (bracketed : Bracketed lines sections) :
    ∃ blocks : List (List (List Char)), lines = blocks.flatten ∧
      ∀ block ∈ blocks, ∃ contents, Bracketed block [contents] := by
  induction bracketed with
  | none => exact ⟨[], rfl, nofun⟩
  | @block name first last rows below sections start finish rest induction =>
      rcases induction with ⟨blocks, split, each⟩
      refine ⟨(first :: (rows.map Row.text ++ [last])) :: blocks, by simp [split], ?_⟩
      exact List.forall_mem_cons.mpr ⟨⟨_, .block start finish .none⟩, each⟩

theorem parseSectioned_perm (shows : Shows text blocks) (showsToo : Shows other others)
    (perm : blocks.Perm others) :
    parseSectioned text = .ok listing ↔ parseSectioned other = .ok listing := by
  have : Nonempty Section := ⟨{ name := "", assignments := [] }⟩
  choose! contents each using shows.2
  have eachOther : ∀ block ∈ others, Bracketed block [contents block] :=
    fun block member => each block (perm.mem_iff.mpr member)
  have read : parseSections text = .ok (blocks.map contents) := by
    rw [parseSections_eq_ok_iff, shows.1, ← List.flatMap_id]
    exact Bracketed.flatMap each
  have readOther : parseSections other = .ok (others.map contents) := by
    rw [parseSections_eq_ok_iff, showsToo.1, ← List.flatMap_id]
    exact Bracketed.flatMap eachOther
  rw [parseSectioned, parseSectioned, read, readOther]
  exact ofSections_perm (perm.map contents)

theorem exists_shows (read : parseSectioned text = .ok listing) : ∃ blocks, Shows text blocks := by
  rw [parseSectioned] at read
  cases sections : parseSections text with
  | error error =>
      rw [sections] at read
      cases read
  | ok contents => exact (parseSections_eq_ok_iff.mp sections).exists_blocks

end Blocks

/-- Sections are chosen if each that counts is there once. A section that comes again is at fault
before one that is missing. The order of the sections does not matter, nor does that of the blocks
in a text, and what is chosen is as long as the sections that count. -/
theorem ofSections_exact :
    (∀ sections result, Sectioned.ofSections sections = result ↔ Selection sections result) ∧
    (∀ sections other : List Section, sections.Perm other → ∀ listing,
      Sectioned.ofSections sections = .ok listing ↔ Sectioned.ofSections other = .ok listing) ∧
    (∀ text listing, parseSectioned text = .ok listing →
      (∃ blocks, Shows text blocks) ∧
      ∀ blocks others other, Shows text blocks → Shows other others → blocks.Perm others →
        parseSectioned other = .ok listing) ∧
    ∀ sections listing, Sectioned.ofSections sections = .ok listing →
      listing.length = ((wanted sections).map (·.assignments.length)).sum := by
  refine ⟨fun _ _ => ofSections_eq_iff, ?_, ?_, fun _ _ => length_ofSections⟩
  · intro sections other perm listing
    exact ofSections_perm perm
  · intro text listing read
    apply And.intro (exists_shows read)
    intro blocks others other shows showsToo perm
    exact (parseSectioned_perm shows showsToo perm).mp read

theorem ofSections_exact_reversed :
    let text (blocks : List (List String)) :=
      String.ofList (blocks.flatten.flatMap fun line => line.toList ++ ['\n'])
    let blocks := [
      ["# Start configuration preamble", "0x0B24,0xC0", "# End configuration preamble"],
      ["# Start configuration registers", "# End configuration registers"],
      ["# Start configuration postamble", "# End configuration postamble"] ]
    let listing : Sectioned :=
      { preamble := [{ address := 0x0B24, value := 0xC0 }], registers := [], postamble := [] }
    parseSectioned (text blocks) = .ok listing ∧
      parseSectioned (text blocks.reverse) = .ok listing := by
  intro text blocks listing
  have read : parseSectioned (text blocks) = .ok listing := by
    rw [parseSectioned, parseSections, linesOf, String.toList_ofList]
    decide +kernel +zetaReduce
  have bracketed : ∀ block ∈ blocks, ∃ contents,
      Bracketed (block.map String.toList) [contents] := by
    have whole (block : List String) (contents : Section)
        (read : sectionLines none (numberFrom 1 (block.map String.toList)) = .ok [contents])
        (visible : shown (block.map String.toList) = block.map String.toList) :
        ∃ contents, Bracketed (block.map String.toList) [contents] :=
      ⟨contents, visible ▸ (sectionLines_eq_ok_iff 1).mp read⟩
    simp only [blocks, List.forall_mem_cons]
    exact ⟨whole _ ⟨"preamble", listing.preamble⟩ (by decide +kernel) (by decide +kernel),
      whole _ ⟨"registers", []⟩ (by decide +kernel) (by decide +kernel),
      whole _ ⟨"postamble", []⟩ (by decide +kernel) (by decide +kernel), List.forall_mem_nil _⟩
  have shows : Shows (text blocks) (blocks.map (List.map String.toList)) := by
    refine ⟨?_, List.forall_mem_map.mpr bracketed⟩
    rw [textLines, String.toList_ofList]
    decide +kernel +zetaReduce
  have reversed : Shows (text blocks.reverse) (blocks.map (List.map String.toList)).reverse := by
    refine ⟨?_, fun block member => shows.2 block (List.mem_reverse.mp member)⟩
    rw [textLines, String.toList_ofList]
    decide +kernel +zetaReduce
  have exact := (ofSections_exact.2.2.1 (text blocks) listing read).2
  exact ⟨read, exact _ _ _ shows reversed (List.reverse_perm _).symm⟩

end ClockBoard.Listing
