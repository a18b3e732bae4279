import ClockBoard.Link.RegisterFile

/-!
Accesses that a device takes one after another, each of which may fail. A device that stops at the
first failure leaves the accesses before it done, so a batch is carried out as a whole or not at all
only if nothing can fail once it has started.

The main statements say what it takes for that: a check of the names beforehand, and no failure of
an access to a register that is there. A register file does both.
-/

namespace ClockBoard.Link

abbrev Step (σ : Type) : Type :=
  Operation → σ → Except Error (Option UInt32) × σ

namespace Step

variable {σ : Type}

def takeAll (step : Step σ) : List Operation → σ → Except Error (List UInt32) × σ
  | [], state => (.ok [], state)
  | operation :: rest, state =>
      match step operation state with
      | (.error error, state) => (.error error, state)
      | (.ok value?, state) =>
          let others := step.takeAll rest state
          (others.1.map (value?.toList ++ ·), others.2)

def Valued (step : Step σ) : Prop :=
  ∀ operation state value? later, step operation state = (.ok value?, later) →
    value?.isSome = operation.isRead

variable {step : Step σ} {operation : Operation} {operations first rest : List Operation}
variable {state middle later : σ} {values : List UInt32}

theorem takeAll_cons_ok {value? : Option UInt32}
    (taken : step operation state = (.ok value?, middle))
    (others : step.takeAll rest middle = (.ok values, later)) :
    step.takeAll (operation :: rest) state = (.ok (value?.toList ++ values), later) := by
  simp only [takeAll, taken, others]
  rfl

theorem takeAll_cons_ok_iff :
    step.takeAll (operation :: rest) state = (.ok values, later) ↔
      ∃ value? middle others, step operation state = (.ok value?, middle) ∧
        step.takeAll rest middle = (.ok others, later) ∧ values = value?.toList ++ others := by
  constructor
  · intro went
    simp only [takeAll] at went
    rcases taken : step operation state with ⟨error | value?, middle⟩
    · simp only [taken] at went
      cases went
    · rcases others : step.takeAll rest middle with ⟨error | more, last⟩
      · simp only [taken, others] at went
        cases went
      · simp only [taken, others] at went
        cases went
        exact ⟨value?, middle, more, rfl, others, rfl⟩
  · rintro ⟨value?, middle, others, taken, went, rfl⟩
    exact takeAll_cons_ok taken went

theorem takeAll_append_ok (went : step.takeAll (first ++ rest) state = (.ok values, later)) :
    ∃ before middle others, step.takeAll first state = (.ok before, middle) ∧
      step.takeAll rest middle = (.ok others, later) ∧ values = before ++ others := by
  induction first generalizing state values with
  | nil => exact ⟨[], state, values, rfl, went, rfl⟩
  | cons operation more induction =>
      rcases takeAll_cons_ok_iff.mp went with ⟨value?, next, tail, taken, continued, rfl⟩
      rcases induction continued with ⟨before, middle, others, done, left, rfl⟩
      exact ⟨value?.toList ++ before, middle, others, takeAll_cons_ok taken done, left,
        (List.append_assoc _ _ _).symm⟩

theorem Valued.length (valued : step.Valued)
    (went : step.takeAll operations state = (.ok values, later)) :
    values.length = operations.countP Operation.isRead := by
  induction operations generalizing state values with
  | nil =>
      cases went
      rfl
  | cons operation rest induction =>
      rcases takeAll_cons_ok_iff.mp went with ⟨value?, middle, others, taken, continued, rfl⟩
      have given := valued operation state value? middle taken
      rw [List.length_append, induction continued, List.countP_cons, ← given, Nat.add_comm]
      cases value? <;> rfl

theorem Valued.value {register : String} (valued : step.Valued)
    (went : step.takeAll (first ++ .read register :: rest) state = (.ok values, later)) :
    ∃ before middle value next, step.takeAll first state = (.ok before, middle) ∧
      step (.read register) middle = (.ok (some value), next) ∧
      values[first.countP Operation.isRead]? = some value := by
  rcases takeAll_append_ok went with ⟨before, middle, others, done, left, rfl⟩
  rcases takeAll_cons_ok_iff.mp left with ⟨value?, next, more, taken, _, rfl⟩
  rcases Option.isSome_iff_exists.mp (valued _ _ _ _ taken) with ⟨value, rfl⟩
  refine ⟨before, middle, value, next, done, taken, ?_⟩
  rw [← valued.length done, List.getElem?_append_right (Nat.le_refl _), Nat.sub_self]
  rfl

end Step

/-! ## Batches -/

namespace Batch

variable {batch : Batch} {known : String → Bool}

theorem firstUnknown?_eq_some {register : String}
    (unknown : batch.firstUnknown? known = some register) :
    ∃ before operation rest, batch.operations = before ++ operation :: rest ∧
      (∀ earlier ∈ before, known earlier.register = true) ∧
      ¬known operation.register = true ∧ register = operation.register := by
  rw [Batch.firstUnknown?, List.find?_map] at unknown
  rcases Option.map_eq_some_iff.mp unknown with ⟨operation, found, rfl⟩
  rcases List.find?_eq_some_iff_append.mp found with ⟨is, before, rest, split, earlier⟩
  refine ⟨before, operation, rest, split, ?_, by simpa using is, rfl⟩
  intro other member
  simpa using earlier other member

theorem firstUnknown?_eq_none :
    batch.firstUnknown? known = none ↔
      ∀ operation ∈ batch.operations, known operation.register = true := by
  simp [Batch.firstUnknown?]

theorem get_respond {values : List UInt32} {index : Nat} {value : UInt32}
    (stands : values[index]? = some value) :
    (batch.respond values).get { batch := batch.serial, index } = .ok value := by
  simp [Batch.respond, Response.get, stands]

end Batch

/-- Whether a transport carries out a batch as a whole or not at all, where it has certain
registers, takes accesses in a certain way, and does something more once all are taken. -/
structure AllOrNothing (σ : Type) [Transport σ] (Has : String → σ → Prop) (step : Step σ)
    (close : Batch → σ → σ) : Prop where
  /-- A batch fails if and only if it names a register that is not there. -/
  fails_iff : ∀ batch state, (∃ error, (dispatch batch state).1 = .error error) ↔
    ∃ operation ∈ batch.operations, ¬Has operation.register state
  /-- The error names the first of these registers, and nothing has changed. -/
  failed : ∀ batch state error, (dispatch batch state).1 = .error error →
    (dispatch batch state).2 = state ∧
      ∃ before operation rest, batch.operations = before ++ operation :: rest ∧
        (∀ earlier ∈ before, Has earlier.register state) ∧ ¬Has operation.register state ∧
        error = .missingRegister operation.register
  /-- A batch that does not fail has all its accesses taken in turn, none of which fails, and is
  answered with one value for each of its reads. -/
  carried : ∀ batch state response, (dispatch batch state).1 = .ok response →
    response.values.length = batch.reads ∧
      ∃ later, step.takeAll batch.operations state = (.ok response.values, later) ∧
        (dispatch batch state).2 = close batch later
  /-- What a read has promised when it was staged is the value that it gives in its turn, after all
  accesses staged before it. -/
  resolved : ∀ staged register more state response,
    let read := Batch.read staged register
    let batch := { read.2 with operations := read.2.operations ++ more }
    (dispatch batch state).1 = .ok response →
      ∃ before middle value next, step.takeAll staged.operations state = (.ok before, middle) ∧
        step (.read register) middle = (.ok (some value), next) ∧
        response.get read.1 = .ok value

namespace AllOrNothing

variable {σ : Type} [Transport σ] {Has : String → σ → Prop} {step : Step σ}
variable {close : Batch → σ → σ}

def Refused (Has : String → σ → Prop) (batch : Batch) (state : σ) : Prop :=
  ∃ before operation rest, batch.operations = before ++ operation :: rest ∧
    (∀ earlier ∈ before, Has earlier.register state) ∧ ¬Has operation.register state ∧
    dispatch batch state = (.error (.missingRegister operation.register), state)

def Taken (Has : String → σ → Prop) (step : Step σ) (close : Batch → σ → σ) (batch : Batch)
    (state : σ) : Prop :=
  (∀ operation ∈ batch.operations, Has operation.register state) ∧
    ∃ values later, step.takeAll batch.operations state = (.ok values, later) ∧
      dispatch batch state = (.ok (batch.respond values), close batch later)

theorem Taken.response {batch : Batch} {state : σ} {response : Response}
    (taken : Taken Has step close batch state) (went : (dispatch batch state).1 = .ok response) :
    ∃ later, response = batch.respond response.values ∧
      step.takeAll batch.operations state = (.ok response.values, later) ∧
      (dispatch batch state).2 = close batch later := by
  rcases taken with ⟨_, values, later, done, answer⟩
  rw [answer] at went ⊢
  cases went
  exact ⟨later, rfl, done, rfl⟩

theorem of_ends (valued : step.Valued)
    (ends : ∀ batch state, Refused Has batch state ∨ Taken Has step close batch state) :
    AllOrNothing σ Has step close := by
  have answered : ∀ batch state response, (dispatch batch state).1 = .ok response →
      Taken Has step close batch state := by
    intro batch state response went
    rcases ends batch state with ⟨_, _, _, _, _, _, refused⟩ | taken
    · rw [refused] at went
      cases went
    · exact taken
  refine ⟨?_, ?_, ?_, ?_⟩
  · intro batch state
    rcases ends batch state with ⟨before, operation, rest, split, _, absent, refused⟩ |
      ⟨all, _, _, _, answer⟩
    · rw [refused]
      exact iff_of_true ⟨_, rfl⟩ ⟨operation, by simp [split], absent⟩
    · rw [answer]
      exact iff_of_false nofun fun ⟨operation, member, absent⟩ => absent (all operation member)
  · intro batch state error went
    rcases ends batch state with ⟨before, operation, rest, split, earlier, absent, refused⟩ |
      ⟨_, _, _, _, answer⟩
    · rw [refused] at went ⊢
      cases went
      exact ⟨rfl, before, operation, rest, split, earlier, absent, rfl⟩
    · rw [answer] at went
      cases went
  · intro batch state response went
    rcases (answered batch state response went).response went with ⟨later, _, done, becomes⟩
    exact ⟨valued.length done, later, done, becomes⟩
  · intro staged register more state response read batch went
    rcases (answered batch state response went).response went with ⟨later, isResponse, done, _⟩
    have order : batch.operations = staged.operations ++ .read register :: more :=
      List.append_assoc staged.operations [.read register] more
    rw [order] at done
    rcases valued.value done with ⟨before, middle, value, next, front, gave, stands⟩
    refine ⟨before, middle, value, next, front, gave, ?_⟩
    rw [isResponse]
    exact Batch.get_respond stands

theorem of_check (known : String → σ → Bool) (valued : step.Valued)
    (knows : ∀ register state, known register state = true ↔ Has register state)
    (refuses : ∀ batch state register, batch.firstUnknown? (known · state) = some register →
      dispatch batch state = (.error (.missingRegister register), state))
    (takes : ∀ batch state, (∀ operation ∈ batch.operations, known operation.register state) →
      ∃ values later, step.takeAll batch.operations state = (.ok values, later) ∧
        dispatch batch state = (.ok (batch.respond values), close batch later)) :
    AllOrNothing σ Has step close := by
  refine of_ends valued fun batch state => ?_
  cases checked : batch.firstUnknown? (known · state) with
  | some register =>
      have refused := refuses batch state register checked
      rcases Batch.firstUnknown?_eq_some checked with
        ⟨before, operation, rest, split, earlier, absent, rfl⟩
      simp only [knows] at earlier absent
      exact .inl ⟨before, operation, rest, split, earlier, absent, refused⟩
  | none =>
      have all := Batch.firstUnknown?_eq_none.mp checked
      have taken := takes batch state all
      simp only [knows] at all
      exact .inr ⟨all, taken⟩

end AllOrNothing

/-! ## Register files -/

namespace RegisterFile

/-- Take an access. A read takes a queued value, else the standing answer, else what the cell holds,
and fails if there is none of these. -/
def take : Step RegisterFile
  | .write register value, file =>
      (.ok none, { file with cells := file.cells.insert register value })
  | .read register, file =>
      match file.queued.get? register with
      | some (value :: rest) =>
          (.ok (some value), { file with queued := file.queued.insert register rest })
      | _ =>
          match file.standing.get? register <|> file.cells.get? register with
          | some value => (.ok (some value), file)
          | none => (.error (.missingRegister register), file)

def Has (register : String) (file : RegisterFile) : Prop :=
  ∃ value, file.peek? register = some value

def close (batch : Batch) (file : RegisterFile) : RegisterFile :=
  { file with journal := file.journal.push batch.operations }

theorem take_valued : Step.Valued take := by
  intro operation file value? later taken
  cases operation with
  | write register value =>
      cases taken
      rfl
  | read register =>
      rw [take] at taken
      split at taken
      · cases taken
        rfl
      · split at taken
        · cases taken
          rfl
        · cases taken

theorem take_read {file : RegisterFile} {register : String}
    (present : file.cells.contains register = true) :
    take (.read register) file = (.ok (some (file.serveRead register).1),
      (file.serveRead register).2) := by
  rcases Option.isSome_iff_exists.mp present with ⟨held, holds⟩
  simp only [take, serveRead]
  rcases file.queued.get? register with _ | _ | ⟨value, rest⟩
  · cases file.standing.get? register <;> simp [holds]
  · cases file.standing.get? register <;> simp [holds]
  · rfl

theorem contains_insert {file : RegisterFile} {register : String}
    (present : file.cells.contains register = true) (written : String) (value : UInt32) :
    (file.cells.insert written value).contains register = true := by
  rw [Table.contains, Table.get?_insert]
  split
  · rfl
  · exact present

theorem serveRead_cells (file : RegisterFile) (register : String) :
    (file.serveRead register).2.cells = file.cells := by
  unfold serveRead
  split <;> rfl

theorem takeAll_take {operations : List Operation} {file : RegisterFile}
    (known : ∀ operation ∈ operations, file.cells.contains operation.register = true) :
    Step.takeAll take operations file =
      (.ok (perform operations file).1, (perform operations file).2) := by
  induction operations generalizing file with
  | nil => rfl
  | cons operation rest induction =>
      have here := known operation List.mem_cons_self
      cases operation with
      | write register value =>
          have taken : take (.write register value) file =
              (.ok none, { file with cells := file.cells.insert register value }) := rfl
          refine Step.takeAll_cons_ok taken (induction ?_)
          intro other member
          exact contains_insert (known other (List.mem_cons_of_mem _ member)) register value
      | read register =>
          refine Step.takeAll_cons_ok (take_read here) (induction ?_)
          intro other member
          rw [serveRead_cells]
          exact known other (List.mem_cons_of_mem _ member)

theorem allOrNothing : AllOrNothing RegisterFile Has take close := by
  apply AllOrNothing.of_check (fun register file => file.cells.contains register) take_valued
  · exact fun register file => Option.isSome_iff_exists
  · intro batch file register unknown
    simp only [dispatch, carry, unknown]
  · intro batch file known
    refine ⟨_, _, takeAll_take known, ?_⟩
    simp only [dispatch, carry, Batch.firstUnknown?_eq_none.mpr known]
    rfl

end RegisterFile

end ClockBoard.Link
