import ClockBoard.Bus.Address
import ClockBoard.Proofs.Text.Blank
import ClockBoard.Proofs.Text.Numeral

/-!
Literals of addresses. A literal is made up of digits with a marker in front of them if they are in
base sixteen, and of blanks at both ends. What is read is a little more than what literals are meant
to be, for a plus sign may stand between the marker and the digits.

The main statement says of every literal what is made of it, and that the sign is the only thing
that is read and not meant.
-/

namespace ClockBoard.Bus

/-! ## Literals -/

inductive BaseMarker
  | none
  | lower
  | upper

namespace BaseMarker

def text : BaseMarker → List Char
  | none => []
  | lower => ['0', 'x']
  | upper => ['0', 'X']

def base : BaseMarker → Nat
  | none => 10
  | lower => 16
  | upper => 16

theorem one_lt_base (marker : BaseMarker) : 1 < marker.base := by
  cases marker <;> decide

theorem base_le (marker : BaseMarker) : marker.base ≤ 16 := by
  cases marker <;> decide

end BaseMarker

def signText (signed : Bool) : List Char :=
  if signed then ['+'] else []

structure Literal (number : Nat) where
  leading : List Char
  marker : BaseMarker
  signed : Bool
  digits : List Char
  trailing : List Char
  spells : Text.SpellsIn marker.base digits number
  blank : ∀ char ∈ leading ++ trailing, Text.isBlank char = true

namespace Literal

variable {number : Nat}

def core (literal : Literal number) : List Char :=
  literal.marker.text ++ (signText literal.signed ++ literal.digits)

def text (literal : Literal number) : List Char :=
  literal.leading ++ (literal.core ++ literal.trailing)

end Literal

/-- Whether a text is a literal of a number, with a sign or without. -/
def Denotes (text : List Char) (number : Nat) : Prop :=
  ∃ literal : Literal number, literal.text = text

def DenotesSigned (text : List Char) (number : Nat) : Prop :=
  ∃ literal : Literal number, literal.text = text ∧ literal.signed = true

/-- Whether a text is a literal of a number as literals are meant to be. -/
def DenotesPlain (text : List Char) (number : Nat) : Prop :=
  ∃ literal : Literal number, literal.text = text ∧ literal.signed = false

/-- What is to be made of a literal, if it is known which numbers it denotes. -/
inductive AddressResult (literal : String) (denotes : Nat → Prop) : Except Error UInt8 → Prop
  | address {address : UInt8} (written : denotes address.toNat) (low : address ≤ 0x7F) :
      AddressResult literal denotes (.ok address)
  | outOfRange {address : UInt8} (written : denotes address.toNat) (high : 0x7F < address) :
      AddressResult literal denotes (.error (.addressOutOfRange address))
  | invalid (other : ∀ number ≤ 0xFF, ¬denotes number) :
      AddressResult literal denotes (.error (.invalidAddress literal))

/-! ## Digits -/

section Digits

variable {marker : BaseMarker} {number : Nat} {digits : List Char}

theorem natural?_base_iff :
    Text.natural? marker.base digits = some number ↔ Text.SpellsIn marker.base digits number :=
  Text.natural?_eq_some_iff_spellsIn marker.one_lt_base marker.base_le

theorem digits_of_spellsIn (spells : Text.SpellsIn marker.base digits number) :
    digits ≠ [] ∧ ∀ char ∈ digits, (Text.digitValue? marker.base char).isSome :=
  spells.digits marker.one_lt_base marker.base_le

theorem dark_of_digit {char : Char} (digit : (Text.digitValue? marker.base char).isSome) :
    Text.isBlank char = false ∧ char ≠ '+' := by
  rcases Option.isSome_iff_exists.mp digit with ⟨value, read⟩
  rcases Text.toNat_of_digitValue? marker.base_le read with ⟨least, greatest⟩
  constructor
  · apply Text.isBlank_of_between <;> omega
  · intro plus
    rw [plus] at least
    exact absurd least (by decide)

theorem signedNatural?_eq_some_iff {text : List Char} :
    Text.signedNatural? marker.base text = some number ↔
      ∃ signed digits, text = signText signed ++ digits ∧
        Text.SpellsIn marker.base digits number := by
  constructor
  · intro read
    unfold Text.signedNatural? at read
    split at read
    · exact ⟨true, _, rfl, natural?_base_iff.mp read⟩
    · exact ⟨false, _, rfl, natural?_base_iff.mp read⟩
  · intro written
    rcases written with ⟨signed, digits, rfl, spells⟩
    have read := natural?_base_iff.mpr spells
    cases signed with
    | true => exact read
    | false =>
        change Text.signedNatural? marker.base digits = some number
        unfold Text.signedNatural?
        split
        · have digit := (digits_of_spellsIn spells).2 '+' List.mem_cons_self
          exact absurd rfl (dark_of_digit digit).2
        · exact read

theorem unmarked_of_spellsIn {signed : Bool} (spells : Text.SpellsIn 10 digits number)
    {first : Char} {rest : List Char} (same : signText signed ++ digits = '0' :: first :: rest) :
    first ≠ 'x' ∧ first ≠ 'X' := by
  have decimal : Text.SpellsIn BaseMarker.none.base digits number := spells
  cases signed with
  | true => cases same
  | false =>
      cases same
      have digit := (digits_of_spellsIn decimal).2 first (by simp)
      constructor
      · rintro rfl
        exact absurd digit (by decide)
      · rintro rfl
        exact absurd digit (by decide)

end Digits

/-! ## Between the blanks -/

theorem addressNumber?_eq_some_iff {text : List Char} {number : Nat} :
    addressNumber? text = some number ↔
      ∃ (marker : BaseMarker) (signed : Bool) (digits : List Char),
        text = marker.text ++ (signText signed ++ digits) ∧
          Text.SpellsIn marker.base digits number := by
  constructor
  · intro read
    unfold addressNumber? at read
    split at read
    · have sixteen : Text.signedNatural? BaseMarker.lower.base _ = some number := read
      rcases signedNatural?_eq_some_iff.mp sixteen with ⟨signed, digits, rfl, spells⟩
      exact ⟨.lower, signed, digits, rfl, spells⟩
    · have sixteen : Text.signedNatural? BaseMarker.upper.base _ = some number := read
      rcases signedNatural?_eq_some_iff.mp sixteen with ⟨signed, digits, rfl, spells⟩
      exact ⟨.upper, signed, digits, rfl, spells⟩
    · have ten : Text.signedNatural? BaseMarker.none.base text = some number := read
      rcases signedNatural?_eq_some_iff.mp ten with ⟨signed, digits, rfl, spells⟩
      exact ⟨.none, signed, digits, rfl, spells⟩
  · intro written
    rcases written with ⟨marker, signed, digits, rfl, spells⟩
    have read := signedNatural?_eq_some_iff.mpr ⟨signed, digits, rfl, spells⟩
    cases marker with
    | lower => exact read
    | upper => exact read
    | none =>
        change addressNumber? (signText signed ++ digits) = some number
        unfold addressNumber?
        split
        · rename_i same
          exact absurd rfl (unmarked_of_spellsIn spells same).1
        · rename_i same
          exact absurd rfl (unmarked_of_spellsIn spells same).2
        · exact read

/-! ## Literals as a whole -/

section Whole

variable {number : Nat} {text : List Char}

theorem Literal.digits_ne_nil (literal : Literal number) : literal.digits ≠ [] :=
  (digits_of_spellsIn literal.spells).1

theorem Literal.core_dark (literal : Literal number) :
    ∀ char ∈ literal.core, Text.isBlank char = false := by
  have marked : ∀ marker : BaseMarker, ∀ char ∈ marker.text, Text.isBlank char = false := by
    intro marker
    cases marker <;> simp [BaseMarker.text] <;> decide
  have plus : ∀ signed, ∀ char ∈ signText signed, Text.isBlank char = false := by
    have dark : Text.isBlank '+' = false := by decide
    intro signed
    cases signed <;> simp [signText, dark]
  intro char member
  rcases List.mem_append.mp member with marker | behind
  · exact marked _ char marker
  · rcases List.mem_append.mp behind with sign | digit
    · exact plus _ char sign
    · exact (dark_of_digit ((digits_of_spellsIn literal.spells).2 char digit)).1

theorem addressNumber?_trim_iff : addressNumber? (Text.trim text) = some number ↔
    Denotes text number := by
  constructor
  · intro read
    rcases addressNumber?_eq_some_iff.mp read with ⟨marker, signed, digits, core, spells⟩
    rcases Text.trim_cases text with ⟨leading, trailing, whole, blank⟩
    rw [core] at whole
    exact ⟨{ leading, marker, signed, digits, trailing, spells, blank }, whole.symm⟩
  · intro written
    rcases written with ⟨literal, rfl⟩
    have shown : literal.core ≠ [] :=
      List.append_ne_nil_of_right_ne_nil _
        (List.append_ne_nil_of_right_ne_nil _ literal.digits_ne_nil)
    have dark (char : Char)
        (edge : literal.core.head? = some char ∨ literal.core.getLast? = some char) :=
      literal.core_dark char (edge.elim List.mem_of_mem_head? List.mem_of_mem_getLast?)
    rw [Literal.text, Text.trim_append shown dark literal.blank]
    exact addressNumber?_eq_some_iff.mpr ⟨_, _, _, rfl, literal.spells⟩

theorem Denotes.unique {other : Nat} (denotes : Denotes text number) (again : Denotes text other) :
    number = other :=
  Option.some.inj ((addressNumber?_trim_iff.mpr denotes).symm.trans
    (addressNumber?_trim_iff.mpr again))

theorem Literal.plus_mem_iff (literal : Literal number) :
    '+' ∈ literal.text ↔ literal.signed = true := by
  have outside : '+' ∉ literal.leading ++ literal.trailing := fun member =>
    absurd (literal.blank '+' member) (by decide)
  have marked : '+' ∉ literal.marker.text := by
    cases literal.marker <;> decide
  have digits : '+' ∉ literal.digits := fun member =>
    (dark_of_digit ((digits_of_spellsIn literal.spells).2 '+' member)).2 rfl
  rw [List.mem_append, not_or] at outside
  simp only [Literal.text, Literal.core, List.mem_append, outside, marked, digits, signText,
    false_or, or_false]
  cases literal.signed <;> decide

theorem denotes_iff :
    Denotes text number ↔ DenotesPlain text number ∨ DenotesSigned text number := by
  constructor
  · intro written
    rcases written with ⟨literal, same⟩
    cases sign : literal.signed with
    | false => exact .inl ⟨literal, same, sign⟩
    | true => exact .inr ⟨literal, same, sign⟩
  · intro written
    rcases written with ⟨literal, same, _⟩ | ⟨literal, same, _⟩
    · exact ⟨literal, same⟩
    · exact ⟨literal, same⟩

theorem DenotesSigned.not_plain {other : Nat} (signed : DenotesSigned text number) :
    ¬DenotesPlain text other := by
  intro plain
  rcases signed with ⟨literal, same, sign⟩
  rcases plain with ⟨another, sameToo, none⟩
  have plus := literal.plus_mem_iff.mpr sign
  rw [same, ← sameToo, another.plus_mem_iff, none] at plus
  cases plus

end Whole

/-! ## Results -/

section Results

variable {literal : String} {result : Except Error UInt8} {denotes others : Nat → Prop}

theorem AddressResult.congr (same : ∀ number ≤ 0xFF, denotes number ↔ others number)
    (described : AddressResult literal denotes result) : AddressResult literal others result := by
  have byte (address : UInt8) : address.toNat ≤ 0xFF := Nat.le_of_lt_succ address.toNat_lt
  cases described with
  | address written low => exact .address ((same _ (byte _)).mp written) low
  | outOfRange written high => exact .outOfRange ((same _ (byte _)).mp written) high
  | invalid other =>
      apply AddressResult.invalid
      intro number small written
      exact other number small ((same number small).mpr written)

theorem parseAddress_of_denotes {address : UInt8} (denotes : Denotes literal.toList address.toNat) :
    parseAddress literal =
      if address ≤ 0x7F then .ok address else .error (.addressOutOfRange address) := by
  have read := addressNumber?_trim_iff.mpr denotes
  have byte : address.toNat < 256 := address.toNat_lt
  simp only [parseAddress, read, if_pos byte, UInt8.ofNat_toNat, checkAddress, lastAddress]
  split <;> rfl

theorem parseAddress_of_not_denotes (other : ∀ number ≤ 0xFF, ¬Denotes literal.toList number) :
    parseAddress literal = .error (.invalidAddress literal) := by
  unfold parseAddress
  cases read : addressNumber? (Text.trim literal.toList) with
  | none => rfl
  | some number =>
      have large : ¬number < 256 := fun small =>
        other number (Nat.le_of_lt_succ small) (addressNumber?_trim_iff.mp read)
      exact if_neg large

theorem AddressResult.parseAddress_eq
    (described : AddressResult literal (Denotes literal.toList) result) :
    parseAddress literal = result := by
  cases described with
  | address written low => rw [parseAddress_of_denotes written, if_pos low]
  | outOfRange written high => rw [parseAddress_of_denotes written, if_neg (UInt8.not_le.mpr high)]
  | invalid other => exact parseAddress_of_not_denotes other

theorem exists_addressResult (literal : String) :
    ∃ result, AddressResult literal (Denotes literal.toList) result := by
  by_cases written : ∃ number ≤ 0xFF, Denotes literal.toList number
  · rcases written with ⟨number, small, denotes⟩
    have same : (UInt8.ofNat number).toNat = number :=
      UInt8.toNat_ofNat_of_lt' (Nat.lt_succ_of_le small)
    rw [← same] at denotes
    by_cases low : UInt8.ofNat number ≤ 0x7F
    · exact ⟨_, .address denotes low⟩
    · exact ⟨_, .outOfRange denotes (UInt8.not_le.mp low)⟩
  · exact ⟨_, .invalid fun number small denotes => written ⟨number, small, denotes⟩⟩

theorem parseAddress_eq_iff :
    parseAddress literal = result ↔ AddressResult literal (Denotes literal.toList) result := by
  constructor
  · intro read
    rcases exists_addressResult literal with ⟨other, described⟩
    exact described.parseAddress_eq.symm.trans read ▸ described
  · exact AddressResult.parseAddress_eq

theorem DenotesSigned.not_result {number : Nat} (signed : DenotesSigned literal.toList number)
    (small : number ≤ 0xFF) :
    ¬AddressResult literal (DenotesPlain literal.toList) (parseAddress literal) := by
  intro described
  cases read : parseAddress literal with
  | ok address =>
      rw [read] at described
      cases described with
      | address written low => exact signed.not_plain written
  | error error =>
      rw [read] at described
      cases described with
      | outOfRange written high => exact signed.not_plain written
      | invalid other =>
          cases parseAddress_eq_iff.mp read with
          | invalid none => exact none number small (denotes_iff.mpr (.inr signed))

end Results

/-- What is made of a literal is told by the number that it denotes, and no text denotes two. It is
what is meant to be made of the literal, unless that has a sign and denotes the number of a byte. -/
theorem parseAddress_iff (literal : String) :
    (∀ result, parseAddress literal = result ↔
      AddressResult literal (Denotes literal.toList) result) ∧
    (∀ number other, Denotes literal.toList number → Denotes literal.toList other →
      number = other) ∧
    (AddressResult literal (DenotesPlain literal.toList) (parseAddress literal) ↔
      ∀ number ≤ 0xFF, ¬DenotesSigned literal.toList number) := by
  refine ⟨fun _ => parseAddress_eq_iff, fun _ _ => Denotes.unique, ?_⟩
  constructor
  · intro meant number small signed
    exact signed.not_result small meant
  · intro unsigned
    apply (parseAddress_eq_iff.mp rfl).congr
    intro number small
    rw [denotes_iff, or_iff_left (unsigned number small)]

theorem parseAddress_reads_sign :
    parseAddress "0x+50" = .ok 0x50 ∧
      ¬AddressResult "0x+50" (DenotesPlain "0x+50".toList) (parseAddress "0x+50") := by
  have signed : DenotesSigned "0x+50".toList 0x50 :=
    ⟨{ leading := []
       marker := .lower
       signed := true
       digits := ['5', '0']
       trailing := []
       spells := ⟨0, by decide⟩
       blank := nofun }, by decide, rfl⟩
  exact ⟨by decide, signed.not_result (by decide)⟩

end ClockBoard.Bus
