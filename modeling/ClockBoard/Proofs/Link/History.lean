import Mathlib.Data.List.Infix
import ClockBoard.Proofs.Link.InTurn
import ClockBoard.Proofs.Link.Promises

/-!
What a register file has been through decides what its reads return. A value that was queued for a
register is returned by one read of it, the oldest first; reads that find none left return the
standing answer given last, or else what was stored last.

The main statement is about any calls, whatever order they are made in and whether they fail or not.
It also says that the cells and the journal tell what was stored and carried out, whatever the reads
returned.
-/

namespace ClockBoard.Link.RegisterFile

/-! ## The past -/

inductive Happening
  | queued (register : String) (values : List UInt32)
  | answered (register : String) (value : UInt32)
  | stored (register : String) (value : UInt32)
  | read (register : String) (value : UInt32)
deriving DecidableEq

/-- What has happened so far, the latest first. -/
abbrev Past : Type :=
  List Happening

def queuedFor (register : String) : Past → List UInt32
  | [] => []
  | .queued target values :: before =>
      if target = register then queuedFor register before ++ values
      else queuedFor register before
  | _ :: before => queuedFor register before

/-- What the reads of a register have returned that found a queued value left, in order. -/
def returnedFor (register : String) : Past → List UInt32
  | [] => []
  | .read target value :: before =>
      if target = register ∧
          (returnedFor register before).length < (queuedFor register before).length then
        returnedFor register before ++ [value]
      else returnedFor register before
  | _ :: before => returnedFor register before

def standingFor (register : String) : Past → Option UInt32
  | [] => none
  | .answered target value :: before =>
      if target = register then some value else standingFor register before
  | _ :: before => standingFor register before

def storedIn (register : String) : Past → UInt32
  | [] => 0
  | .stored target value :: before =>
      if target = register then value else storedIn register before
  | _ :: before => storedIn register before

/-- What a read of a register has to return. -/
inductive Due (register : String) (before : Past) : UInt32 → Prop
  | queued {value : UInt32} {left : List UInt32}
      (split : queuedFor register before = returnedFor register before ++ value :: left) :
      Due register before value
  | standing {value : UInt32} (spent : queuedFor register before = returnedFor register before)
      (answer : standingFor register before = some value) : Due register before value
  | held (spent : queuedFor register before = returnedFor register before)
      (silent : standingFor register before = none) :
      Due register before (storedIn register before)

/-! ## Calls -/

inductive Call
  | enqueue (register : String) (values : List UInt32)
  | answerWith (register : String) (value : UInt32)
  | poke (register : String) (value : UInt32)
  | dispatch (batch : Batch)
  | clearJournal

inductive Outcome
  | done
  | failed (error : Error)
  | responded (response : Response)

def Call.make : Call → RegisterFile → Outcome × RegisterFile
  | .enqueue register values, file => (.done, file.enqueue register values)
  | .answerWith register value, file => (.done, file.answerWith register value)
  | .poke register value, file =>
      match file.poke register value with
      | .ok file => (.done, file)
      | .error error => (.failed error, file)
  | .dispatch batch, file =>
      match Link.dispatch batch file with
      | (.ok response, file) => (.responded response, file)
      | (.error error, file) => (.failed error, file)
  | .clearJournal, file => (.done, file.clearJournal)

structure Session where
  file : RegisterFile
  entries : List (Call × Outcome)

namespace Session

def on (file : RegisterFile) : Session where
  file
  entries := []

def make (session : Session) (call : Call) : Session :=
  let made := call.make session.file
  { file := made.2, entries := (call, made.1) :: session.entries }

def makeAll (session : Session) (calls : List Call) : Session :=
  calls.foldl make session

end Session

/-- What accesses with the values of their reads come to, in order. There is a value for each read
in a response to them. -/
def carriedOut : List Operation → List UInt32 → List Happening
  | .write register value :: rest, values => .stored register value :: carriedOut rest values
  | .read register :: rest, value :: values => .read register value :: carriedOut rest values
  | _, _ => []

/-- What a call comes to, in order. A call that fails comes to nothing. -/
def happenings : Call × Outcome → List Happening
  | (.enqueue register values, .done) => [.queued register values]
  | (.answerWith register value, .done) => [.answered register value]
  | (.poke register value, .done) => [.stored register value]
  | (.dispatch batch, .responded response) => carriedOut batch.operations response.values
  | _ => []

def pastOf (entries : List (Call × Outcome)) : Past :=
  entries.flatMap fun entry => (happenings entry).reverse

def carriedSince : List (Call × Outcome) → List (List Operation)
  | [] => []
  | (.clearJournal, _) :: _ => []
  | (.dispatch batch, .responded _) :: before => carriedSince before ++ [batch.operations]
  | _ :: before => carriedSince before

inductive Expected (registers : List String) : Call → Outcome → Prop
  | enqueue {register : String} {values : List UInt32} :
      Expected registers (.enqueue register values) .done
  | answerWith {register : String} {value : UInt32} :
      Expected registers (.answerWith register value) .done
  | poke {register : String} {value : UInt32} (known : register ∈ registers) :
      Expected registers (.poke register value) .done
  | unknown {register : String} {value : UInt32} (absent : register ∉ registers) :
      Expected registers (.poke register value) (.failed (.missingRegister register))
  | carried {batch : Batch} {values : List UInt32}
      (known : ∀ operation ∈ batch.operations, operation.register ∈ registers)
      (count : values.length = batch.reads) :
      Expected registers (.dispatch batch) (.responded (batch.respond values))
  | refused {batch : Batch} {before rest : List Operation} {operation : Operation}
      (split : batch.operations = before ++ operation :: rest)
      (earlier : ∀ other ∈ before, other.register ∈ registers)
      (absent : operation.register ∉ registers) :
      Expected registers (.dispatch batch) (.failed (.missingRegister operation.register))
  | clearJournal : Expected registers .clearJournal .done

/-! ## One happening after another -/

/-- Whether a register file with certain registers looks like what it has been through, and all its
reads have returned what was due. -/
structure Faithful (registers : List String) (file : RegisterFile) (past : Past) : Prop where
  cells : ∀ register, file.cells.get? register =
    if register ∈ registers then some (storedIn register past) else none
  queued : ∀ register, queuedFor register past =
    returnedFor register past ++ (file.queued.get? register).getD []
  standing : ∀ register, file.standing.get? register = standingFor register past
  reads : ∀ register value before, Happening.read register value :: before <:+ past →
    Due register before value

namespace Faithful

variable {registers : List String} {file : RegisterFile} {past : Past} {register : String}

theorem ofRegisters (registers : List String) :
    Faithful registers (RegisterFile.ofRegisters registers) [] where
  cells register := by
    simp only [RegisterFile.ofRegisters, Table.ofList, storedIn]
    induction registers using List.reverseRecOn with
    | nil => rfl
    | append_singleton registers last induction =>
        rw [List.map_append, List.foldl_append, List.map_singleton, List.foldl_cons,
          List.foldl_nil, Table.get?_insert, induction]
        by_cases same : last = register
        · simp [same]
        · simp [same, Ne.symm same]
  queued _ := rfl
  standing _ := rfl
  reads _ _ _ suffix := by simp at suffix

theorem contains_iff (faithful : Faithful registers file past) :
    file.cells.contains register = true ↔ register ∈ registers := by
  rw [Table.contains, faithful.cells]
  split <;> simp [*]

theorem reads_cons {happening : Happening}
    (reads : ∀ register value before, Happening.read register value :: before <:+ past →
      Due register before value)
    (due : ∀ register value, happening = .read register value → Due register past value) :
    ∀ register value before, Happening.read register value :: before <:+ happening :: past →
      Due register before value := by
  intro register value before suffix
  rcases List.suffix_cons_iff.mp suffix with same | suffix
  · rcases List.cons.inj same with ⟨rfl, rfl⟩
    exact due register value rfl
  · exact reads register value before suffix

theorem stored (faithful : Faithful registers file past) (known : register ∈ registers)
    (value : UInt32) :
    Faithful registers { file with cells := file.cells.insert register value }
      (.stored register value :: past) where
  cells asked := by
    rw [Table.get?_insert, faithful.cells, storedIn]
    by_cases same : register = asked
    · simp [← same, known]
    · simp [same]
  queued := faithful.queued
  standing := faithful.standing
  reads := reads_cons faithful.reads nofun

theorem enqueue (faithful : Faithful registers file past) (values : List UInt32) :
    Faithful registers (file.enqueue register values) (.queued register values :: past) where
  cells := faithful.cells
  queued asked := by
    simp only [queuedFor, returnedFor, RegisterFile.enqueue, Table.get?_insert]
    by_cases same : register = asked
    · cases same
      simp [faithful.queued register]
    · simpa [same] using faithful.queued asked
  standing := faithful.standing
  reads := reads_cons faithful.reads nofun

theorem answerWith (faithful : Faithful registers file past) (value : UInt32) :
    Faithful registers (file.answerWith register value) (.answered register value :: past) where
  cells := faithful.cells
  queued := faithful.queued
  standing asked := by
    simp only [RegisterFile.answerWith, Table.get?_insert, standingFor, faithful.standing]
  reads := reads_cons faithful.reads nofun

theorem takes (faithful : Faithful registers file past) {value : UInt32} {left : List UInt32}
    (waiting : file.queued.get? register = some (value :: left)) :
    Faithful registers { file with queued := file.queued.insert register left }
      (.read register value :: past) := by
  have oldest : queuedFor register past = returnedFor register past ++ value :: left := by
    rw [faithful.queued, waiting, Option.getD_some]
  refine ⟨faithful.cells, fun asked => ?_, faithful.standing, reads_cons faithful.reads ?_⟩
  · simp only [queuedFor, returnedFor, Table.get?_insert]
    by_cases same : register = asked
    · cases same
      simp [oldest]
    · simpa [same] using faithful.queued asked
  · rintro _ _ ⟨⟩
    exact .queued oldest

theorem looks (faithful : Faithful registers file past) {value : UInt32}
    (spent : queuedFor register past = returnedFor register past)
    (due : Due register past value) : Faithful registers file (.read register value :: past) := by
  refine ⟨faithful.cells, fun asked => ?_, faithful.standing, reads_cons faithful.reads ?_⟩
  · -- No queued value is left, so the read is none of those that return one.
    have unmoved : returnedFor asked (.read register value :: past) = returnedFor asked past := by
      rw [returnedFor, if_neg]
      rintro ⟨rfl, fewer⟩
      rw [spent] at fewer
      exact Nat.lt_irrefl _ fewer
    rw [unmoved]
    exact faithful.queued asked
  · rintro _ _ ⟨⟩
    exact due

theorem serveRead (faithful : Faithful registers file past) (known : register ∈ registers) :
    Faithful registers (file.serveRead register).2
      (.read register (file.serveRead register).1 :: past) := by
  have own := faithful.queued register
  have held := faithful.cells register
  rw [if_pos known] at held
  rw [RegisterFile.serveRead]
  split
  · rename_i waiting
    exact faithful.takes waiting
  · rename_i unfilled
    have spent : queuedFor register past = returnedFor register past := by
      cases waiting : file.queued.get? register with
      | none => simpa [waiting] using own
      | some left =>
          cases left with
          | nil => simpa [waiting] using own
          | cons value left => exact absurd waiting (unfilled value left)
    refine faithful.looks spent ?_
    rw [held, faithful.standing, Option.getD_some]
    cases answer : standingFor register past with
    | none => exact .held spent answer
    | some value => exact .standing spent answer

theorem perform {operations : List Operation} (faithful : Faithful registers file past)
    (known : ∀ operation ∈ operations, operation.register ∈ registers) :
    Faithful registers (perform operations file).2
      ((carriedOut operations (RegisterFile.perform operations file).1).reverse ++ past) := by
  induction operations generalizing file past with
  | nil => exact faithful
  | cons operation rest induction =>
      have others := fun other member => known other (List.mem_cons_of_mem _ member)
      cases operation with
      | write register value =>
          have own : register ∈ registers := known _ List.mem_cons_self
          have later := induction (faithful.stored own value) others
          simpa [RegisterFile.perform, carriedOut] using later
      | read register =>
          have own : register ∈ registers := known _ List.mem_cons_self
          have later := induction (faithful.serveRead own) others
          simpa [RegisterFile.perform, carriedOut] using later

end Faithful

theorem perform_journal (operations : List Operation) (file : RegisterFile) :
    (perform operations file).2.journal = file.journal := by
  induction operations generalizing file with
  | nil => rfl
  | cons operation rest induction =>
      cases operation with
      | write register value => exact induction _
      | read register =>
          have served : (file.serveRead register).2.journal = file.journal := by
            unfold serveRead
            split <;> rfl
          exact (induction _).trans served

/-! ## One call after another -/

namespace Session

/-- Whether a register file shows what its calls have come to, which is what can come of them. -/
structure Sound (registers : List String) (session : Session) : Prop where
  faithful : Faithful registers session.file (pastOf session.entries)
  journal : session.file.journal.toList = carriedSince session.entries
  expected : ∀ entry ∈ session.entries, Expected registers entry.1 entry.2

variable {registers : List String} {session : Session}

theorem sound_on (registers : List String) : (on (.ofRegisters registers)).Sound registers where
  faithful := .ofRegisters registers
  journal := rfl
  expected := nofun

theorem sound_poke (sound : session.Sound registers) (register : String) (value : UInt32) :
    (session.make (.poke register value)).Sound registers := by
  by_cases known : register ∈ registers
  · have present := sound.faithful.contains_iff.mpr known
    simp only [make, Call.make, poke, if_pos present]
    exact ⟨sound.faithful.stored known value, sound.journal,
      List.forall_mem_cons.mpr ⟨.poke known, sound.expected⟩⟩
  · have missing := mt sound.faithful.contains_iff.mp known
    simp only [make, Call.make, poke, if_neg missing]
    exact ⟨sound.faithful, sound.journal,
      List.forall_mem_cons.mpr ⟨.unknown known, sound.expected⟩⟩

theorem sound_dispatch (sound : session.Sound registers) (batch : Batch) :
    (session.make (.dispatch batch)).Sound registers := by
  simp only [make, Call.make, dispatch, carry]
  cases checked : batch.firstUnknown? session.file.cells.contains with
  | some register =>
      rcases Batch.firstUnknown?_eq_some checked with
        ⟨before, operation, rest, split, earlier, absent, rfl⟩
      simp only [sound.faithful.contains_iff] at earlier absent
      exact ⟨sound.faithful, sound.journal,
        List.forall_mem_cons.mpr ⟨.refused split earlier absent, sound.expected⟩⟩
  | none =>
      have known := Batch.firstUnknown?_eq_none.mp checked
      simp only [sound.faithful.contains_iff] at known
      have later := sound.faithful.perform known
      -- The file differs in its journal only from the one that is faithful.
      refine ⟨⟨later.cells, later.queued, later.standing, later.reads⟩, ?_,
        List.forall_mem_cons.mpr ⟨.carried known (length_perform _ _), sound.expected⟩⟩
      rw [carriedSince, ← sound.journal, ← perform_journal batch.operations session.file]
      exact Array.toList_push

theorem sound_make (sound : session.Sound registers) (call : Call) :
    (session.make call).Sound registers := by
  cases call with
  | enqueue register values =>
      exact ⟨sound.faithful.enqueue values, sound.journal,
        List.forall_mem_cons.mpr ⟨.enqueue, sound.expected⟩⟩
  | answerWith register value =>
      exact ⟨sound.faithful.answerWith value, sound.journal,
        List.forall_mem_cons.mpr ⟨.answerWith, sound.expected⟩⟩
  | poke register value => exact sound_poke sound register value
  | dispatch batch => exact sound_dispatch sound batch
  | clearJournal =>
      have faithful := sound.faithful
      exact ⟨⟨faithful.cells, faithful.queued, faithful.standing, faithful.reads⟩, rfl,
        List.forall_mem_cons.mpr ⟨.clearJournal, sound.expected⟩⟩

theorem sound_makeAll (sound : session.Sound registers) (calls : List Call) :
    (session.makeAll calls).Sound registers := by
  induction calls generalizing session with
  | nil => exact sound
  | cons call rest induction => exact induction (sound_make sound call)

theorem calls_makeAll (session : Session) (calls : List Call) :
    (session.makeAll calls).entries.map Prod.fst =
      calls.reverse ++ session.entries.map Prod.fst := by
  induction calls generalizing session with
  | nil => rfl
  | cons call rest induction =>
      have later := induction (session.make call)
      simpa [makeAll, make] using later

end Session

/-! ## Any calls -/

/-- Each read returns what is due at the time, so those that find a queued value left return the
queued values in order. The cells hold what was stored last, whatever the reads return, and the
journal has the batches that were carried out since it was cleared. A batch is carried out unless it
names a register that is not there. -/
theorem makeAll_faithful (registers : List String) (calls : List Call) :
    let session := (Session.on (.ofRegisters registers)).makeAll calls
    let past := pastOf session.entries
    let carried := carriedSince session.entries
    session.entries.map Prod.fst = calls.reverse ∧
    (∀ entry ∈ session.entries, Expected registers entry.1 entry.2) ∧
    (∀ register value before, .read register value :: before <:+ past →
      Due register before value) ∧
    (∀ register, returnedFor register past <+: queuedFor register past) ∧
    (∀ register, session.file.peek? register =
      if register ∈ registers then some (storedIn register past) else none) ∧
    session.file.journal.toList = carried ∧
    (∀ register, session.file.writesTo register =
      carried.flatten.filterMap (Operation.valueFor? register)) ∧
    ∀ register, session.file.readsOf register = carried.flatten.countP (· = .read register) := by
  intro session past carried
  have sound : session.Sound registers := Session.sound_makeAll (Session.sound_on registers) calls
  have inOrder : session.entries.map Prod.fst = calls.reverse :=
    (Session.calls_makeAll _ calls).trans (List.append_nil _)
  refine ⟨inOrder, sound.expected, sound.faithful.reads, ?_, sound.faithful.cells, sound.journal,
    ?_, ?_⟩
  · intro register
    exact ⟨_, (sound.faithful.queued register).symm⟩
  · intro register
    rw [writesTo, sound.journal]
  · intro register
    rw [readsOf, sound.journal]

theorem makeAll_faithful_queue :
    let calls : List Call := [
      .enqueue "status" [1, 2],
      .dispatch { serial := 0, operations := [.read "status", .read "lost"] },
      .dispatch { serial := 1, operations := [.write "status" 9, .read "status"] },
      .answerWith "status" 7,
      .clearJournal,
      .dispatch { serial := 2, operations := [.read "status", .read "status"] }]
    let session := (Session.on (.ofRegisters ["status"])).makeAll calls
    let before : Past := [.read "status" 2, .answered "status" 7, .read "status" 1,
      .stored "status" 9, .queued "status" [1, 2]]
    pastOf session.entries = .read "status" 7 :: before ∧ Due "status" before 7 ∧
      session.file.peek? "status" = some 9 ∧ session.file.readsOf "status" = 2 := by
  intro calls session before
  have past : pastOf session.entries = .read "status" 7 :: before := by decide +kernel +zetaReduce
  rcases makeAll_faithful ["status"] calls with ⟨_, _, due, _, cells, _, _, reads⟩
  refine ⟨past, due "status" 7 before ?_, (cells "status").trans ?_, (reads "status").trans ?_⟩
  · exact past ▸ List.suffix_rfl
  · decide +kernel +zetaReduce
  · decide +kernel +zetaReduce

end ClockBoard.Link.RegisterFile
