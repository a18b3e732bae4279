/-!
Tables are finite maps that remember the order in which their keys first came. Putting a value
under a key that is present leaves the key where it stands.
-/

namespace ClockBoard

/-- A finite map that lists its keys in the order of their first arrival. -/
structure Table (κ ν : Type) where
  entries : List (κ × ν)

namespace Table

variable {κ ν μ β : Type} [DecidableEq κ]

def empty : Table κ ν := ⟨[]⟩

instance : EmptyCollection (Table κ ν) := ⟨empty⟩

def keys (table : Table κ ν) : List κ :=
  table.entries.map Prod.fst

private def find (key : κ) : List (κ × ν) → Option ν
  | [] => none
  | (present, value) :: rest => if present = key then some value else find key rest

private def put (key : κ) (value : ν) : List (κ × ν) → List (κ × ν)
  | [] => [(key, value)]
  | (present, old) :: rest =>
      if present = key then (present, value) :: rest else (present, old) :: put key value rest

private def act (key : κ) (action : ν → β × ν) : List (κ × ν) → Option β × List (κ × ν)
  | [] => (none, [])
  | (present, value) :: rest =>
      if present = key then
        let acted := action value
        (some acted.1, (present, acted.2) :: rest)
      else
        let acted := act key action rest
        (acted.1, (present, value) :: acted.2)

def get? (table : Table κ ν) (key : κ) : Option ν :=
  find key table.entries

def contains (table : Table κ ν) (key : κ) : Bool :=
  (table.get? key).isSome

def insert (table : Table κ ν) (key : κ) (value : ν) : Table κ ν :=
  ⟨put key value table.entries⟩

/-- Act on the value under a key and return what the action gave, or nothing if the key is
absent. -/
def visit (table : Table κ ν) (key : κ) (action : ν → β × ν) : Option β × Table κ ν :=
  let acted := act key action table.entries
  (acted.1, ⟨acted.2⟩)

def map (transform : ν → μ) (table : Table κ ν) : Table κ μ :=
  ⟨table.entries.map fun entry => (entry.1, transform entry.2)⟩

/-- Later pairs win. -/
def ofList (pairs : List (κ × ν)) : Table κ ν :=
  pairs.foldl (fun table pair => table.insert pair.1 pair.2) empty

/-! ## Laws -/

@[simp] theorem get?_empty (key : κ) : (empty : Table κ ν).get? key = none := rfl

private theorem find_put (key asked : κ) (value : ν) (entries : List (κ × ν)) :
    find asked (put key value entries) =
      if key = asked then some value else find asked entries := by
  induction entries with
  | nil => rfl
  | cons entry rest induction =>
      obtain ⟨present, old⟩ := entry
      by_cases same : present = key
      · subst same
        by_cases equal : present = asked <;> simp [put, find, equal]
      · simp only [put, same, if_false, find, induction]
        by_cases equal : present = asked
        · subst equal
          simp [Ne.symm same]
        · simp [equal]

theorem get?_insert (table : Table κ ν) (key asked : κ) (value : ν) :
    (table.insert key value).get? asked =
      if key = asked then some value else table.get? asked :=
  find_put key asked value table.entries

private theorem act_eq (key : κ) (action : ν → β × ν) (entries : List (κ × ν)) :
    act key action entries =
      match find key entries with
      | none => (none, entries)
      | some value => (some (action value).1, put key (action value).2 entries) := by
  induction entries with
  | nil => rfl
  | cons entry rest induction =>
      obtain ⟨present, old⟩ := entry
      by_cases same : present = key
      · simp [act, find, put, same]
      · simp only [act, find, put, same, if_false, induction]
        cases find key rest <;> rfl

theorem visit_eq (table : Table κ ν) (key : κ) (action : ν → β × ν) :
    table.visit key action =
      match table.get? key with
      | none => (none, table)
      | some value => (some (action value).1, table.insert key (action value).2) := by
  simp only [visit, get?, insert, act_eq]
  cases find key table.entries <;> rfl

theorem visit_congr {table other : Table κ ν} (same : ∀ key, table.get? key = other.get? key)
    (key : κ) (action : ν → β × ν) :
    (table.visit key action).1 = (other.visit key action).1 ∧
      ∀ asked, (table.visit key action).2.get? asked = (other.visit key action).2.get? asked := by
  rw [visit_eq, visit_eq, ← same key]
  cases table.get? key with
  | none => exact ⟨rfl, same⟩
  | some value =>
      refine ⟨rfl, ?_⟩
      intro asked
      simp only [get?_insert, same]

private theorem put_of_find {key : κ} {value : ν} {entries : List (κ × ν)}
    (present : find key entries = some value) : put key value entries = entries := by
  induction entries with
  | nil => cases present
  | cons entry rest induction =>
      obtain ⟨other, old⟩ := entry
      by_cases same : other = key
      · simp only [find, same, if_true, Option.some.injEq] at present
        simp [put, same, present]
      · simp only [find, same, if_false] at present
        simp [put, same, induction present]

theorem insert_of_get? {table : Table κ ν} {key : κ} {value : ν}
    (present : table.get? key = some value) : table.insert key value = table :=
  congrArg Table.mk (put_of_find present)

theorem map_insert (transform : ν → μ) (table : Table κ ν) (key : κ) (value : ν) :
    (table.insert key value).map transform =
      (table.map transform).insert key (transform value) := by
  rcases table with ⟨entries⟩
  simp only [map, insert, mk.injEq]
  induction entries with
  | nil => rfl
  | cons entry rest induction =>
      obtain ⟨other, old⟩ := entry
      by_cases same : other = key <;> simp [put, same, induction]

@[simp] theorem get?_map (transform : ν → μ) (table : Table κ ν) (key : κ) :
    (table.map transform).get? key = (table.get? key).map transform := by
  rcases table with ⟨entries⟩
  simp only [map, get?]
  induction entries with
  | nil => rfl
  | cons entry rest induction =>
      by_cases same : entry.1 = key <;> simp [find, same, induction]

end Table

end ClockBoard
