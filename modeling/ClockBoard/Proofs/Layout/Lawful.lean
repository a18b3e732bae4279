import ClockBoard.Proofs.Layout.Serial

/-!
Layouts whose fields keep out of each other's way: no two of them share a bit, none changes what
another reads, and together they tell everything about a record.

The main statements say that such a layout brings every record back from its word, and that it
brings a word back with the bits that no field claims cleared.
-/

namespace ClockBoard.Layout

variable {α : Type}

/-- Whether a field reads back what was set, as far as its bits go. -/
@[mk_iff]
structure Field.Faithful (field : Field α) : Prop where
  small : ∀ record, field.get record < field.capacity
  get_set : ∀ value record, field.get (field.set value record) = value % field.capacity

/-- Whether two fields have no bit in common, and setting one leaves the other as it is. -/
@[mk_iff]
structure Field.Apart (one other : Field α) : Prop where
  bits : one.low + one.width ≤ other.low ∨ other.low + other.width ≤ one.low
  keeps : ∀ value record, one.get (other.set value record) = one.get record
  keepsOther : ∀ value record, other.get (one.set value record) = other.get record

/-- Whether the fields of a layout keep apart and tell everything about a record. -/
structure Lawful (layout : Layout α) : Prop extends layout.Fits where
  faithful : ∀ field ∈ layout.fields, field.Faithful
  apart : layout.fields.Pairwise Field.Apart
  ext : ∀ one other, (∀ field ∈ layout.fields, field.get one = field.get other) → one = other

/-! ## Fields -/

namespace Field

variable {field other : Field α}

theorem Apart.symm (apart : field.Apart other) : other.Apart field where
  bits := apart.bits.symm
  keeps := apart.keepsOther
  keepsOther := apart.keeps

section Flag

variable {name : String} {bit : Nat} {get : α → Bool} {set : Bool → α → α}

@[simp] theorem flag_low : (flag name bit get set).low = bit := rfl

@[simp] theorem flag_width : (flag name bit get set).width = 1 := rfl

@[simp] theorem flag_get (record : α) : (flag name bit get set).get record = (get record).toNat :=
  rfl

@[simp] theorem flag_set (value : Nat) (record : α) :
    (flag name bit get set).set value record = set (value % 2 == 1) record := rfl

@[simp] theorem toNat_bool_inj {one other : Bool} : one.toNat = other.toNat ↔ one = other := by
  cases one <;> cases other <;> decide

@[simp] theorem faithful_flag (get_set : ∀ value record, get (set value record) = value) :
    (flag name bit get set).Faithful where
  small record := Bool.toNat_lt (get record)
  get_set value record := by
    rw [flag_get, flag_set, get_set]
    change (value % 2 == 1).toNat = value % 2
    rcases Nat.mod_two_eq_zero_or_one value with even | odd
    · rw [even]
      rfl
    · rw [odd]
      rfl

end Flag

theorem capacity_eq (field : Field α) : field.capacity = 2 ^ field.width :=
  Nat.one_shiftLeft _

theorem extract_lt (field : Field α) (word : Nat) : field.extract word < field.capacity := by
  rw [extract, capacity_eq]
  exact Nat.mod_lt _ (Nat.two_pow_pos _)

theorem extract_zero (field : Field α) : field.extract 0 = 0 := by
  rw [extract, Nat.zero_shiftRight, Nat.zero_mod]

theorem extract_or (field : Field α) (one other : Nat) :
    field.extract (one ||| other) = field.extract one ||| field.extract other := by
  rw [extract, Nat.shiftRight_or_distrib, capacity_eq, Nat.or_mod_two_pow, ← capacity_eq]
  rfl

theorem extract_place (field : Field α) (record : α) :
    field.extract (field.place record) = field.get record % field.capacity := by
  rw [extract, place, Nat.shiftLeft_shiftRight, Nat.mod_mod]

theorem Apart.extract_place (apart : field.Apart other) (record : α) :
    field.extract (other.place record) = 0 := by
  apply Nat.eq_of_testBit_eq
  intro index
  rw [extract, place, capacity_eq, capacity_eq, Nat.zero_testBit, Nat.testBit_mod_two_pow,
    Nat.testBit_shiftRight, Nat.testBit_shiftLeft, Nat.testBit_mod_two_pow]
  rcases apart.bits with below | above
  · by_cases inside : index < field.width
    · have under : ¬other.low ≤ field.low + index := by omega
      simp [under]
    · simp [inside]
  · have beyond : ¬field.low + index - other.low < other.width := by omega
    simp [beyond]

theorem extract_shiftLeft (field : Field α) (word : Nat) :
    field.extract word <<< field.low = word &&& field.mask := by
  apply Nat.eq_of_testBit_eq
  intro index
  rw [extract, mask, capacity_eq, Nat.testBit_shiftLeft, Nat.testBit_and, Nat.testBit_shiftLeft,
    Nat.testBit_mod_two_pow, Nat.testBit_shiftRight, Nat.testBit_two_pow_sub_one]
  by_cases above : field.low ≤ index
  · simp [above, Nat.add_sub_cancel' above, Bool.and_comm]
  · simp [above]

end Field

/-! ## Records and words -/

variable {layout : Layout α} {field : Field α} {others : List (Field α)}

theorem get_foldl_set (apart : ∀ other ∈ others, field.Apart other) (word : Nat) (record : α) :
    field.get (others.foldl (fun record other => other.set (other.extract word) record) record) =
      field.get record := by
  apply List.foldlRecOn (motive := fun result => field.get result = field.get record)
  · rfl
  · intro result same other member
    exact ((apart other member).keeps _ _).trans same

theorem extract_foldl_place (apart : ∀ other ∈ others, field.Apart other) (record : α)
    (word : Nat) :
    field.extract (others.foldl (fun word other => word ||| other.place record) word) =
      field.extract word := by
  apply List.foldlRecOn (motive := fun result => field.extract result = field.extract word)
  · rfl
  · intro result same other member
    rw [Field.extract_or, (apart other member).extract_place, Nat.or_zero, same]

namespace Lawful

theorem split (lawful : layout.Lawful) (member : field ∈ layout.fields) :
    ∃ front back, layout.fields = front ++ field :: back ∧
      (∀ other ∈ front, field.Apart other) ∧ ∀ other ∈ back, field.Apart other := by
  rcases List.append_of_mem member with ⟨front, back, fields⟩
  have apart := lawful.apart
  rw [fields] at apart
  rcases List.pairwise_append.mp apart with ⟨_, rest, across⟩
  refine ⟨front, back, fields, ?_, (List.pairwise_cons.mp rest).1⟩
  intro other member
  exact (across other member field List.mem_cons_self).symm

theorem get_decode (lawful : layout.Lawful) (member : field ∈ layout.fields) (word : Nat) :
    field.get (layout.decode word) = field.extract word := by
  rcases lawful.split member with ⟨front, back, fields, _, after⟩
  rw [decode, fields, List.foldl_append, List.foldl_cons, get_foldl_set after,
    (lawful.faithful field member).get_set]
  exact Nat.mod_eq_of_lt (field.extract_lt word)

theorem extract_encode (lawful : layout.Lawful) (member : field ∈ layout.fields) (record : α) :
    field.extract (layout.encode record) = field.get record := by
  rcases lawful.split member with ⟨front, back, fields, before, after⟩
  rw [encode, fields, List.foldl_append, List.foldl_cons, extract_foldl_place after,
    Field.extract_or, extract_foldl_place before, Field.extract_zero, Nat.zero_or,
    Field.extract_place]
  exact Nat.mod_eq_of_lt ((lawful.faithful field member).small record)

/-- A record comes back from its word. -/
theorem decode_encode (lawful : layout.Lawful) (record : α) :
    layout.decode (layout.encode record) = record := by
  apply lawful.ext
  intro field member
  rw [lawful.get_decode member, lawful.extract_encode member]

/-- A word comes back from its record, as far as its bits are declared. -/
theorem encode_decode (lawful : layout.Lawful) (word : Nat) :
    layout.encode (layout.decode word) = word &&& layout.declared := by
  have places : ∀ field ∈ layout.fields,
      field.place (layout.decode word) = word &&& field.mask := by
    intro field member
    rw [Field.place, lawful.get_decode member, Nat.mod_eq_of_lt (field.extract_lt word),
      field.extract_shiftLeft]
  -- Field by field, the bits placed so far are those of the word that were declared so far.
  have joined : ∀ fields ⊆ layout.fields, ∀ bits,
      fields.foldl (fun encoded field => encoded ||| field.place (layout.decode word))
        (word &&& bits) = word &&& fields.foldl (fun bits field => bits ||| field.mask) bits := by
    intro fields
    induction fields with
    | nil => exact fun _ _ => rfl
    | cons field rest induction =>
        intro within bits
        have first := places field (within List.mem_cons_self)
        rw [List.foldl_cons, List.foldl_cons, first, ← Nat.and_or_distrib_left]
        exact induction (fun _ member => within (List.mem_cons_of_mem _ member)) _
  have all := joined layout.fields (fun _ member => member) 0
  rwa [Nat.and_zero] at all

theorem toNat_toWord (lawful : layout.Lawful) (record : α) :
    (layout.toWord record).toNat = layout.encode record := by
  have small : layout.encode record < 2 ^ 32 := by
    calc layout.encode record
      _ < 2 ^ (8 * layout.bytes) := lawful.encode_lt record
      _ ≤ 2 ^ 32 := Nat.pow_le_pow_right (by decide) (Nat.mul_le_mul_left 8 lawful.bytes)
  exact UInt32.toNat_ofNat_of_lt small

theorem ofWord_toWord (lawful : layout.Lawful) (record : α) :
    layout.ofWord (layout.toWord record) = record := by
  rw [ofWord, lawful.toNat_toWord, lawful.decode_encode]

end Lawful

end ClockBoard.Layout
