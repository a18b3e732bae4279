import ClockBoard.Text.Numeral
import Mathlib.Data.List.Basic
import Mathlib.Data.List.Induction

/-!
Rows of digits and the numbers that they spell in a base, in either case and with zeros in front. A
base is sixteen at most, for that is how far digits go.

The main statement says that a row is read as the number that it spells, and that only rows that
spell a number are read as it.
-/

namespace ClockBoard.Text

theorem natural?_eq_some_iff {base number : Nat} {digits : List Char} :
    natural? base digits = some number ↔
      digits ≠ [] ∧ ∃ values, digits.mapM (digitValue? base) = some values ∧
        ofDigits base values = number := by
  cases digits with
  | nil => simp [natural?]
  | cons char rest =>
      simp only [natural?, List.isEmpty_cons, Bool.false_eq_true, if_false,
        Option.map_eq_some_iff, ne_eq, reduceCtorEq, not_false_eq_true, true_and]

theorem digits_of_mapM {base : Nat} {digits : List Char} {values : List Nat}
    (read : digits.mapM (digitValue? base) = some values) :
    ∀ char ∈ digits, (digitValue? base char).isSome := by
  induction digits generalizing values with
  | nil => exact fun _ member => nomatch member
  | cons first rest induction =>
      rw [List.mapM_cons] at read
      rcases Option.bind_eq_some_iff.mp read with ⟨value, digit, more⟩
      rcases Option.bind_eq_some_iff.mp more with ⟨_, remaining, _⟩
      intro char member
      rcases List.mem_cons.mp member with rfl | member
      · exact Option.isSome_iff_exists.mpr ⟨value, digit⟩
      · exact induction remaining char member

/-! ## Case -/

theorem toNat_toLower (char : Char) :
    char.toLower.toNat =
      if 65 ≤ char.toNat ∧ char.toNat ≤ 90 then char.toNat + 32 else char.toNat := by
  have upper_iff : (char.val ≥ 'A'.val ∧ char.val ≤ 'Z'.val) ↔
      (65 ≤ char.toNat ∧ char.toNat ≤ 90) := Iff.rfl
  unfold Char.toLower
  split
  · rename_i upper
    have range := upper_iff.mp upper
    rw [if_pos range]
    change (char.val + 32).toNat = _
    rw [UInt32.toNat_add]
    change (char.toNat + 32) % 2 ^ 32 = _
    omega
  · rename_i other
    rw [if_neg fun range => other (upper_iff.mpr range)]

theorem digitValue?_toLower (base : Nat) (char : Char) :
    digitValue? base char.toLower = digitValue? base char := by
  have le (one two : Char) : one ≤ two ↔ one.toNat ≤ two.toNat := Iff.rfl
  have ends : '0'.toNat = 48 ∧ '9'.toNat = 57 ∧ 'a'.toNat = 97 ∧ 'z'.toNat = 122 ∧
      'A'.toNat = 65 ∧ 'Z'.toNat = 90 := by decide
  simp only [digitValue?, le, toNat_toLower, ends]
  split
  · rename_i upper
    have same : char.toNat + 32 - 97 + 10 = char.toNat - 65 + 10 := by omega
    rw [if_neg (by omega), if_pos (by omega), if_neg (by omega), if_neg (by omega), same]
  · rfl

theorem natural?_toLower (base : Nat) (digits : List Char) :
    natural? base (digits.map Char.toLower) = natural? base digits := by
  have same : digitValue? base ∘ Char.toLower = digitValue? base :=
    funext (digitValue?_toLower base)
  simp only [natural?, List.isEmpty_map, List.mapM_map, same]

/-! ## Digits -/

section Base

variable {base : Nat}

theorem digitValue?_eq_some_iff (few : base ≤ 16) {char : Char} {value : Nat} :
    digitValue? base char = some value ↔ digitValue? 16 char = some value ∧ value < base := by
  simp only [digitValue?, Option.filter_eq_some_iff, decide_eq_true_eq, and_assoc]
  constructor
  · intro read
    exact ⟨read.1, by omega, read.2⟩
  · intro read
    exact ⟨read.1, read.2.2⟩

theorem digitValue?_digitChar (few : base ≤ 16) {digit : Nat} (small : digit < base) :
    digitValue? base digit.digitChar = some digit := by
  have table : ∀ digit < 16, digitValue? 16 digit.digitChar = some digit := by decide
  exact (digitValue?_eq_some_iff few).mpr ⟨table digit (by omega), small⟩

theorem ofDigits_concat (base digit : Nat) (digits : List Nat) :
    ofDigits base (digits ++ [digit]) = ofDigits base digits * base + digit := by
  simp [ofDigits]

theorem natural?_toDigits (two : 1 < base) (few : base ≤ 16) (number : Nat) :
    natural? base (Nat.toDigits base number) = some number := by
  induction number using Nat.strongRecOn with
  | ind number induction =>
      rw [Nat.toDigits_eq_if two]
      split
      · rename_i small
        simp [natural?, digitValue?_digitChar few small, ofDigits]
      · rename_i large
        have fewer : number / base < number := Nat.div_lt_self (by omega) two
        rcases natural?_eq_some_iff.mp (induction _ fewer) with ⟨_, values, read, value⟩
        have last : digitValue? base (number % base).digitChar = some (number % base) :=
          digitValue?_digitChar few (Nat.mod_lt number (by omega))
        refine natural?_eq_some_iff.mpr ⟨by simp, values ++ [number % base], ?_, ?_⟩
        · simp [List.mapM_append, read, last]
        · rw [ofDigits_concat, value]
          exact Nat.div_add_mod' number base

theorem natural?_zeros (two : 1 < base) (few : base ≤ 16) {number : Nat} {digits : List Char}
    (read : natural? base digits = some number) (zeros : Nat) :
    natural? base (List.replicate zeros '0' ++ digits) = some number := by
  rcases natural?_eq_some_iff.mp read with ⟨any, values, each, value⟩
  have nothing : digitValue? base (Nat.digitChar 0) = some 0 :=
    digitValue?_digitChar few (by omega)
  change digitValue? base '0' = some 0 at nothing
  refine natural?_eq_some_iff.mpr
    ⟨List.append_ne_nil_of_right_ne_nil _ any, List.replicate zeros 0 ++ values, ?_, ?_⟩
  · induction zeros with
    | zero => exact each
    | succ zeros induction =>
        simp [List.replicate_succ, nothing, induction]
  · induction zeros with
    | zero => exact value
    | succ zeros induction =>
        rw [List.replicate_succ, List.cons_append, ← induction]
        simp [ofDigits]

theorem toNat_of_digitValue? (few : base ≤ 16) {char : Char} {value : Nat}
    (read : digitValue? base char = some value) : 48 ≤ char.toNat ∧ char.toNat ≤ 102 := by
  have le (one two : Char) : one ≤ two ↔ one.toNat ≤ two.toNat := Iff.rfl
  have ends : '0'.toNat = 48 ∧ '9'.toNat = 57 ∧ 'a'.toNat = 97 ∧ 'z'.toNat = 122 ∧
      'A'.toNat = 65 ∧ 'Z'.toNat = 90 := by decide
  simp only [digitValue?, le, ends, Option.filter_eq_some_iff, decide_eq_true_eq] at read
  rcases read with ⟨counted, small⟩
  split at counted
  · omega
  · split at counted
    · have value := Option.some.inj counted
      omega
    · split at counted
      · omega
      · cases counted

theorem toLower_of_digitValue? (few : base ≤ 16) {char : Char} {value : Nat}
    (read : digitValue? base char = some value) :
    char.toLower = value.digitChar ∧ value < base := by
  have table : ∀ code < 103, (digitValue? 16 (Char.ofNat code)).all fun value =>
      (Char.ofNat code).toLower = value.digitChar := by decide
  rcases (digitValue?_eq_some_iff few).mp read with ⟨known, small⟩
  have entry := table char.toNat (Nat.lt_succ_of_le (toNat_of_digitValue? few read).2)
  rw [Char.ofNat_toNat, known] at entry
  exact ⟨by simpa using entry, small⟩

/-- A digit at the end leaves the digits before it as they are, but for a zero on its own. -/
theorem toDigits_concat (two : 1 < base) (number : Nat) {digit : Nat} (small : digit < base) :
    ∃ zeros, Nat.toDigits base number ++ [digit.digitChar] =
      List.replicate zeros '0' ++ Nat.toDigits base (number * base + digit) := by
  by_cases nothing : number = 0
  · refine ⟨1, ?_⟩
    have positive : 0 < base := by omega
    rw [nothing, Nat.zero_mul, Nat.zero_add, Nat.toDigits_of_lt_base small,
      Nat.toDigits_of_lt_base positive]
    rfl
  · refine ⟨0, ?_⟩
    have large : base ≤ number * base := Nat.le_mul_of_pos_left base (by omega)
    have front : (number * base + digit) / base = number := by
      rw [Nat.mul_comm, Nat.mul_add_div (by omega), Nat.div_eq_of_lt small, Nat.add_zero]
    have last : (number * base + digit) % base = digit := by
      rw [Nat.mul_comm, Nat.mul_add_mod, Nat.mod_eq_of_lt small]
    rw [Nat.toDigits_eq_if two (n := number * base + digit), if_neg (by omega), front, last]
    rfl

/-! ## Spelling -/

/-- Whether digits spell a number in a base. -/
def SpellsIn (base : Nat) (digits : List Char) (number : Nat) : Prop :=
  ∃ zeros, digits.map Char.toLower = List.replicate zeros '0' ++ Nat.toDigits base number

/-- What is read as a number spells it, and only that is. -/
theorem natural?_eq_some_iff_spellsIn (two : 1 < base) (few : base ≤ 16) {digits : List Char}
    {number : Nat} : natural? base digits = some number ↔ SpellsIn base digits number := by
  constructor
  · intro read
    rcases natural?_eq_some_iff.mp read with ⟨any, values, each, value⟩
    clear read
    induction digits using List.reverseRecOn generalizing values number with
    | nil => exact absurd rfl any
    | append_singleton front last induction =>
        simp only [List.mapM_append, List.mapM_cons, List.mapM_nil, Option.bind_eq_bind,
          Option.bind_eq_some_iff, Option.pure_def, Option.some.injEq] at each
        rcases each with ⟨frontValues, frontEach, _, ⟨lastValue, lastRead, _, rfl, rfl⟩, rfl⟩
        rcases toLower_of_digitValue? few lastRead with ⟨lower, small⟩
        rw [ofDigits_concat] at value
        cases value
        by_cases alone : front = []
        · cases alone
          cases frontEach
          refine ⟨0, ?_⟩
          simp [ofDigits, Nat.toDigits_of_lt_base small, lower]
        · rcases induction alone frontValues frontEach rfl with ⟨zeros, same⟩
          rcases toDigits_concat two (ofDigits base frontValues) small with ⟨more, joined⟩
          refine ⟨zeros + more, ?_⟩
          rw [List.map_append, same, List.append_assoc, List.map_singleton, lower, joined,
            ← List.append_assoc, List.replicate_append_replicate]
  · intro spells
    rcases spells with ⟨zeros, same⟩
    rw [← natural?_toLower, same]
    exact natural?_zeros two few (natural?_toDigits two few number) zeros

theorem spellsIn_toDigits (two : 1 < base) (few : base ≤ 16) (number : Nat) :
    SpellsIn base (Nat.toDigits base number) number :=
  (natural?_eq_some_iff_spellsIn two few).mp (natural?_toDigits two few number)

theorem SpellsIn.digits (two : 1 < base) (few : base ≤ 16) {digits : List Char} {number : Nat}
    (spells : SpellsIn base digits number) :
    digits ≠ [] ∧ ∀ char ∈ digits, (digitValue? base char).isSome := by
  have read := (natural?_eq_some_iff_spellsIn two few).mpr spells
  rcases natural?_eq_some_iff.mp read with ⟨any, _, each, _⟩
  exact ⟨any, digits_of_mapM each⟩

end Base

/-! ## Base sixteen -/

def Spells (digits : List Char) (number : Nat) : Prop :=
  SpellsIn 16 digits number

theorem natural?_eq_some_iff_spells {digits : List Char} {number : Nat} :
    natural? 16 digits = some number ↔ Spells digits number :=
  natural?_eq_some_iff_spellsIn (by decide) (by decide)

theorem spells_toDigits (number : Nat) : Spells (Nat.toDigits 16 number) number :=
  spellsIn_toDigits (by decide) (by decide) number

namespace Spells

variable {digits : List Char} {number : Nat}

theorem natural? (spells : Spells digits number) : natural? 16 digits = some number :=
  natural?_eq_some_iff_spells.mpr spells

theorem ne_nil (spells : Spells digits number) : digits ≠ [] :=
  (SpellsIn.digits (by decide) (by decide) spells).1

theorem isHexDigit (spells : Spells digits number) :
    ∀ char ∈ digits, isHexDigit char = true :=
  (SpellsIn.digits (by decide) (by decide) spells).2

end Spells

end ClockBoard.Text
