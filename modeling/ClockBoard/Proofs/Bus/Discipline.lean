import ClockBoard.Proofs.Bus.Recovery
import ClockBoard.Proofs.Bus.Signal

/-!
A bus on a transport of which nothing is known: it may fail to carry a batch, answer less than was
asked, or answer something else, at any time and in any way.

The main statement says that whatever calls are made, the bus writes no word to the command register
but zeros and commands that move a byte in one direction; and that within one transaction it issues
no command before a status read has shown the end of the one before.
-/

namespace ClockBoard.Bus

open ClockBoard.Core ClockBoard.Link

variable {bus : Bus} {α β : Type} {before after : List Entry} {good : UInt32 → Prop}

/-- Whether a routine may end with a result, with what is recorded before and after. -/
abbrev Goes (routine : Routine Link.interface α) (before : List Entry) (result : α)
    (after : List Entry) : Prop :=
  routine.Possible Recorded.Answered before result after ()

/-! ## Words -/

/-- Whether all words that a routine writes are of some kind. -/
def Speaks (bus : Bus) (good : UInt32 → Prop) (routine : Routine Link.interface α) : Prop :=
  ∀ before result after, Goes routine before result after →
    ∀ word, .command word ∈ bus.heard after → .command word ∈ bus.heard before ∨ good word

theorem Speaks.mono {routine : Routine Link.interface α} {other : UInt32 → Prop}
    (speaks : bus.Speaks good routine) (weaker : ∀ word, good word → other word) :
    bus.Speaks other routine :=
  fun before result after goes word heard =>
    (speaks before result after goes word heard).imp_right (weaker word)

theorem goes_exchange {operations : List Operation} {result : Except Error (List UInt32)}
    (goes : Goes (exchange operations).run before result after) :
    (∃ values, result = .ok values ∧ after = before ++ [⟨operations, values⟩]) ∨
      ∃ error, result = .error error ∧ (after = before ∨ after = before ++ [⟨operations, []⟩]) := by
  rcases (Routine.possible_map _ _ _).mp goes with ⟨answer, exchanged, rfl⟩
  rcases (Routine.possible_ask_done _ _).mp exchanged with rfl | ⟨rfl, error, rfl⟩
  · cases answer with
    | ok values => exact .inl ⟨values, rfl, rfl⟩
    | error error => exact .inr ⟨_, rfl, .inr rfl⟩
  · exact .inr ⟨_, rfl, .inl rfl⟩

def standing (bus : Bus) (entries : List Entry) : Standing :=
  Standing.silent.afterAll (bus.heard entries)

/-- Whether no command in a record was given before its time. -/
def Obeys (bus : Bus) (entries : List Entry) : Prop :=
  Standing.silent.Heeds (bus.heard entries)

/-- Whether an action that meets a standing of one kind gives no command before its time, and leaves
a standing of another kind if it goes well. -/
def Leads (bus : Bus) (start : Standing → Prop) (action : Action α)
    (finish : α → Standing → Prop) : Prop :=
  ∀ before result after, Goes action.run before result after → bus.Obeys before →
    start (bus.standing before) →
      bus.Obeys after ∧ ∀ value, result = .ok value → finish value (bus.standing after)

section

variable {start : Standing → Prop} {middle : α → Standing → Prop} {finish : β → Standing → Prop}

theorem Leads.mono {earlier : Standing → Prop} {later : β → Standing → Prop} {action : Action β}
    (leads : bus.Leads start action finish) (begins : ∀ standing, earlier standing → start standing)
    (ends : ∀ value standing, finish value standing → later value standing) :
    bus.Leads earlier action later := by
  intro before result after goes obeys begun
  rcases leads before result after goes obeys (begins _ begun) with ⟨still, ended⟩
  exact ⟨still, fun value same => ends value _ (ended value same)⟩

end

/-! ## Steps of transactions -/

/-- A word that a bus may write: nothing at all, or a command with a direction. -/
def Proper (word : UInt32) : Prop :=
  word = 0 ∨ Directed word

/-- Whether an action writes proper words only, and may be part of a transaction: it leaves its own
commands settled if it finds those before settled. -/
structure Careful (bus : Bus) (action : Action α) : Prop where
  speaks : bus.Speaks Proper action.run
  leads : bus.Leads Standing.Clear action fun _ => Standing.Clear

/-- What a status has to show for a wait to end well. -/
def Shows (needAck needIdle : Bool) (word : UInt32) : Prop :=
  let status := Status.layout.ofWord word
  status.transferInProgress = false ∧ status.arbitrationLost = false ∧
    (needAck = true → status.rxNack = false) ∧ (needIdle = true → status.busy = false)

theorem Careful.obeys {action : Action α} {result : Bool} (careful : bus.Careful action)
    (goes : Goes (attempt action) [] result after) : bus.Obeys after := by
  rcases (Routine.possible_map _ _ _).mp goes with ⟨answer, acted, _⟩
  exact (careful.leads [] answer after acted trivial trivial).1

end ClockBoard.Bus
