import Mathlib.Data.List.Basic
import ClockBoard.Link.Board
import ClockBoard.Link.RegisterFile

/-!
Batches in the hands of those who stage them. Batches are set up, copied, extended and dispatched in
any order, and the promises that come with their reads are kept for as long as anyone likes.

A promise names a batch by its serial number, which the copies of the batch share, and a read by its
place in it. The main statement says when a reply keeps a promise: unless the batch that was
dispatched has, in the place of the read, another one that was staged in another copy.
-/

namespace ClockBoard.Link

/-- A batch, with the numbers of the reads staged in it and of the draft that it goes back to
through all copying. Drafts and reads are numbered in the order in which they come up; a copy has
the reads of its original. -/
structure Draft where
  batch : Batch
  reads : List Nat
  root : Nat

/-- What was handed out for a read, and the draft that the read was staged in. -/
structure Promise where
  pending : Pending
  draft : Nat
deriving DecidableEq

structure Reply where
  response : Response
  reads : List Nat
deriving DecidableEq

structure Desk (σ : Type) where
  board : Board σ
  drafts : List Draft
  promises : List Promise
  replies : List Reply

/-- What can be done at a desk. A batch is dispatched by someone who holds the transport, or through
the lock. -/
inductive Move
  | create
  | copy (draft : Nat)
  | write (draft : Nat) (register : String) (value : UInt32)
  | read (draft : Nat) (register : String)
  | dispatch (draft : Nat) (shared : Bool)

namespace Desk

variable {σ : Type}

def on (board : Board σ) : Desk σ where
  board
  drafts := []
  promises := []
  replies := []

def revise (desk : Desk σ) (number : Nat) (draft : Draft) (given : List Promise) : Desk σ :=
  { desk with
    drafts := desk.drafts.set number draft
    promises := desk.promises ++ given }

def create (desk : Desk σ) : Desk σ :=
  let staged := desk.board.stage []
  { desk with
    board := staged.2
    drafts := desk.drafts ++ [{ batch := staged.1, reads := [], root := desk.drafts.length }] }

def copy (desk : Desk σ) (draft : Draft) : Desk σ :=
  { desk with drafts := desk.drafts ++ [draft] }

def write (desk : Desk σ) (number : Nat) (draft : Draft) (register : String) (value : UInt32) :
    Desk σ :=
  desk.revise number { draft with batch := draft.batch.write register value } []

def read (desk : Desk σ) (number : Nat) (draft : Draft) (register : String) : Desk σ :=
  let staged := draft.batch.read register
  desk.revise number
    { draft with batch := staged.2, reads := draft.reads ++ [desk.promises.length] }
    [{ pending := staged.1, draft := number }]

def dispatch [Transport σ] (desk : Desk σ) (draft : Draft) (shared : Bool) : Desk σ :=
  let carried :=
    if shared then desk.board.dispatchShared draft.batch else desk.board.dispatchHeld draft.batch
  match carried.1 with
  | .ok response =>
      { desk with
        board := carried.2
        replies := desk.replies ++ [{ response, reads := draft.reads }] }
  | .error _ => { desk with board := carried.2 }

def withDraft (desk : Desk σ) (number : Nat) (action : Draft → Desk σ) : Desk σ :=
  match desk.drafts[number]? with
  | some draft => action draft
  | none => desk

def make [Transport σ] (desk : Desk σ) : Move → Desk σ
  | .create => desk.create
  | .copy number => desk.withDraft number desk.copy
  | .write number register value =>
      desk.withDraft number fun draft => desk.write number draft register value
  | .read number register => desk.withDraft number fun draft => desk.read number draft register
  | .dispatch number shared => desk.withDraft number fun draft => desk.dispatch draft shared

def makeAll [Transport σ] (desk : Desk σ) (moves : List Move) : Desk σ :=
  moves.foldl make desk

end Desk

/-! ## What holds at a desk -/

def Listed (promises : List Promise) (serial : Nat) (reads : List Nat) : Prop :=
  ∀ place read, reads[place]? = some read →
    ∃ promise : Promise, promises[read]? = some promise ∧
      promise.pending.batch = serial ∧ promise.pending.index = place

theorem Listed.later {promises : List Promise} {serial : Nat} {reads : List Nat}
    (listed : Listed promises serial reads) (more : List Promise) :
    Listed (promises ++ more) serial reads := by
  intro place read there
  rcases listed place read there with ⟨promise, given, named⟩
  exact ⟨promise, List.getElem?_append_left (List.getElem?_eq_some_iff.mp given).1 ▸ given, named⟩

namespace Desk

variable {σ : Type}

structure Filed (desk : Desk σ) (draft : Draft) : Prop where
  counted : draft.reads.length = draft.batch.reads
  listed : Listed desk.promises draft.batch.serial draft.reads
  serial : draft.batch.serial < desk.board.staged
  root : draft.root < desk.drafts.length

structure Sound (desk : Desk σ) : Prop where
  filed : ∀ draft ∈ desk.drafts, desk.Filed draft
  /-- Copies of one draft, and no others, have the same serial number. -/
  rooted : ∀ draft ∈ desk.drafts, ∀ other ∈ desk.drafts,
    draft.batch.serial = other.batch.serial ↔ draft.root = other.root
  /-- The draft that a read was staged in has it in its place. -/
  given : ∀ (read : Nat) (promise : Promise), desk.promises[read]? = some promise →
    ∃ draft : Draft, desk.drafts[promise.draft]? = some draft ∧
      draft.reads[promise.pending.index]? = some read
  replied : ∀ reply ∈ desk.replies, ∃ serial, reply.response.batch = some serial ∧
    reply.response.values.length = reply.reads.length ∧
    Listed desk.promises serial reply.reads

theorem sound_on (board : Board σ) : (on board).Sound where
  filed := by simp [on]
  rooted := by simp [on]
  given := by simp [on]
  replied := by simp [on]

variable {desk : Desk σ}

theorem sound_create (sound : desk.Sound) : desk.create.Sound := by
  have later : ∀ draft ∈ desk.drafts, desk.create.Filed draft := by
    intro draft member
    have filed := sound.filed draft member
    refine ⟨filed.counted, filed.listed, Nat.lt_succ_of_lt filed.serial, ?_⟩
    simpa [create] using Nat.lt_succ_of_lt filed.root
  refine ⟨?_, ?_, ?_, sound.replied⟩
  · intro draft member
    rcases List.mem_append.mp member with old | new
    · exact later draft old
    · rw [List.mem_singleton.mp new]
      refine ⟨rfl, by simp [Listed], Nat.lt_succ_self _, ?_⟩
      simp [create]
  · -- The new draft differs from the others in both numbers.
    intro draft member other alike
    rcases List.mem_append.mp member with old | new <;>
      rcases List.mem_append.mp alike with old' | new'
    · exact sound.rooted draft old other old'
    · have filed := sound.filed draft old
      rw [List.mem_singleton.mp new']
      exact iff_of_false (Nat.ne_of_lt filed.serial) (Nat.ne_of_lt filed.root)
    · have filed := sound.filed other old'
      rw [List.mem_singleton.mp new]
      exact iff_of_false (Nat.ne_of_gt filed.serial) (Nat.ne_of_gt filed.root)
    · rw [List.mem_singleton.mp new, List.mem_singleton.mp new']
      exact iff_of_true rfl rfl
  · intro read promise there
    rcases sound.given read promise there with ⟨draft, home, place⟩
    exact ⟨draft, List.getElem?_append_left (List.getElem?_eq_some_iff.mp home).1 ▸ home, place⟩

theorem sound_copy (sound : desk.Sound) {draft : Draft} (member : draft ∈ desk.drafts) :
    (desk.copy draft).Sound := by
  have same : ∀ other ∈ (desk.copy draft).drafts, other ∈ desk.drafts := by
    intro other present
    rcases List.mem_append.mp present with old | new
    · exact old
    · rw [List.mem_singleton.mp new]
      exact member
  refine ⟨?_, ?_, ?_, sound.replied⟩
  · intro other present
    have filed := sound.filed other (same other present)
    refine ⟨filed.counted, filed.listed, filed.serial, ?_⟩
    simpa [copy] using Nat.lt_succ_of_lt filed.root
  · intro one first other second
    exact sound.rooted one (same one first) other (same other second)
  · intro read promise there
    rcases sound.given read promise there with ⟨home, found, place⟩
    exact ⟨home, List.getElem?_append_left (List.getElem?_eq_some_iff.mp found).1 ▸ found, place⟩

structure Revises (draft revised : Draft) : Prop where
  serial : revised.batch.serial = draft.batch.serial
  root : revised.root = draft.root
  reads : draft.reads <+: revised.reads

theorem sound_revise (sound : desk.Sound) {number : Nat} {draft revised : Draft}
    {more : List Promise} (there : desk.drafts[number]? = some draft)
    (revises : Revises draft revised)
    (counted : revised.reads.length = revised.batch.reads)
    (listed : Listed (desk.promises ++ more) revised.batch.serial revised.reads)
    (given : ∀ read promise, (desk.promises ++ more)[read]? = some promise →
      desk.promises.length ≤ read →
      promise.draft = number ∧ revised.reads[promise.pending.index]? = some read) :
    (desk.revise number revised more).Sound := by
  have member : draft ∈ desk.drafts := List.mem_of_getElem? there
  have inside : number < desk.drafts.length := (List.getElem?_eq_some_iff.mp there).1
  have alike : ∀ other ∈ (desk.revise number revised more).drafts, ∃ old ∈ desk.drafts,
      other.batch.serial = old.batch.serial ∧ other.root = old.root := by
    intro other present
    rcases List.mem_or_eq_of_mem_set present with old | rfl
    · exact ⟨other, old, rfl, rfl⟩
    · exact ⟨draft, member, revises.serial, revises.root⟩
  refine ⟨?_, ?_, ?_, ?_⟩
  · intro other present
    rcases List.mem_or_eq_of_mem_set present with old | rfl
    · have filed := sound.filed other old
      exact ⟨filed.counted, filed.listed.later more, filed.serial,
        by simpa [revise] using filed.root⟩
    · have filed := sound.filed draft member
      exact ⟨counted, listed, revises.serial ▸ filed.serial,
        by simpa [revise, revises.root] using filed.root⟩
  · intro one first other second
    rcases alike one first with ⟨old, present, serial, root⟩
    rcases alike other second with ⟨old', present', serial', root'⟩
    rw [serial, serial', root, root']
    exact sound.rooted old present old' present'
  · intro read promise promised
    rcases Nat.lt_or_ge read desk.promises.length with before | after
    · rw [revise, List.getElem?_append_left before] at promised
      rcases sound.given read promise promised with ⟨home, found, place⟩
      by_cases same : promise.draft = number
      · rw [same, there] at found
        cases found
        rcases revises.reads with ⟨added, extends'⟩
        refine ⟨revised, by simp [revise, same, inside], ?_⟩
        rw [← extends', List.getElem?_append_left (List.getElem?_eq_some_iff.mp place).1, place]
      · exact ⟨home, by simpa [revise, List.getElem?_set_ne (Ne.symm same)] using found, place⟩
    · rcases given read promise promised after with ⟨rfl, place⟩
      exact ⟨revised, by simp [revise, inside], place⟩
  · intro reply present
    rcases sound.replied reply present with ⟨serial, answers, count, listed⟩
    exact ⟨serial, answers, count, listed.later more⟩

theorem sound_write (sound : desk.Sound) {number : Nat} {draft : Draft}
    (there : desk.drafts[number]? = some draft) (register : String) (value : UInt32) :
    (desk.write number draft register value).Sound := by
  have filed := sound.filed draft (List.mem_of_getElem? there)
  unfold write
  refine sound_revise sound there ⟨rfl, rfl, List.prefix_rfl⟩ ?_ ?_ ?_
  · simpa [Batch.reads, Batch.write, Operation.isRead] using filed.counted
  · exact filed.listed.later []
  · intro read promise promised after
    have before := (List.getElem?_eq_some_iff.mp promised).1
    rw [List.append_nil] at before
    omega

theorem sound_read (sound : desk.Sound) {number : Nat} {draft : Draft}
    (there : desk.drafts[number]? = some draft) (register : String) :
    (desk.read number draft register).Sound := by
  have filed := sound.filed draft (List.mem_of_getElem? there)
  unfold read
  refine sound_revise sound there ⟨rfl, rfl, List.prefix_append _ _⟩ ?_ ?_ ?_
  · simp [Batch.reads, Batch.read, Operation.isRead, filed.counted]
  · -- The new read comes behind the others, and so does its promise.
    intro place read listed
    rcases Nat.lt_or_ge place draft.reads.length with before | after
    · rw [List.getElem?_append_left before] at listed
      exact filed.listed.later _ place read listed
    · rw [List.getElem?_append_right after, List.getElem?_singleton] at listed
      split at listed
      · rename_i last
        cases listed
        refine ⟨_, List.getElem?_concat_length, rfl, ?_⟩
        have equal : place = draft.reads.length := by omega
        rw [equal, filed.counted]
        rfl
      · cases listed
  · intro read promise promised after
    rw [List.getElem?_append_right after, List.getElem?_singleton] at promised
    split at promised
    · rename_i last
      cases promised
      have equal : read = desk.promises.length := by omega
      refine ⟨rfl, ?_⟩
      rw [equal, show (draft.batch.read register).1.index = draft.reads.length from
        filed.counted.symm]
      exact List.getElem?_concat_length
    · cases promised

end Desk

/-! ## Replies -/

/-- A transport that gives one value for each read of the batches that it carries, in order. -/
def Answers (σ : Type) [Transport σ] : Prop :=
  ∀ (batch : Batch) (transport : σ) (response : Response),
    (dispatch batch transport).1 = .ok response →
    ∃ values, response = batch.respond values ∧ values.length = batch.reads

theorem RegisterFile.length_perform (operations : List Operation) (file : RegisterFile) :
    (perform operations file).1.length = operations.countP Operation.isRead := by
  induction operations generalizing file with
  | nil => rfl
  | cons operation rest induction =>
      cases operation with
      | write register value => simpa [perform, Operation.isRead] using induction _
      | read register =>
          rw [List.countP_cons_of_pos rfl, ← induction (file.serveRead register).2]
          rfl

theorem RegisterFile.answers : Answers RegisterFile := by
  intro batch file response carried
  change (carry batch file).1 = .ok response at carried
  unfold carry at carried
  split at carried
  · cases carried
  · cases carried
    exact ⟨_, rfl, length_perform _ _⟩

namespace Desk

variable {σ : Type} [Transport σ] {desk : Desk σ}

theorem carried_answers (answers : Answers σ) (board : Board σ) (batch : Batch) (shared : Bool) :
    let carried := if shared then board.dispatchShared batch else board.dispatchHeld batch
    carried.2.staged = board.staged ∧ ∀ response, carried.1 = .ok response →
      ∃ values, response = batch.respond values ∧ values.length = batch.reads := by
  rcases board with ⟨transport, access, staged, events⟩
  have held := answers batch transport
  cases shared with
  | false => exact ⟨rfl, held⟩
  | true =>
      cases access with
      | free => exact ⟨rfl, held⟩
      | poisoned => exact ⟨rfl, fun _ failed => nomatch failed⟩
      | gone => exact ⟨rfl, fun _ failed => nomatch failed⟩

theorem sound_dispatch (answers : Answers σ) (sound : desk.Sound) {draft : Draft}
    (member : draft ∈ desk.drafts) (shared : Bool) : (desk.dispatch draft shared).Sound := by
  have filed := sound.filed draft member
  have carried := carried_answers answers desk.board draft.batch shared
  unfold dispatch
  generalize (if shared = true then desk.board.dispatchShared draft.batch
    else desk.board.dispatchHeld draft.batch) = done at carried ⊢
  rcases done with ⟨result, board⟩
  rcases carried with ⟨staged, responds⟩
  cases result with
  | error error =>
      refine ⟨fun other present => ?_, sound.rooted, sound.given, sound.replied⟩
      have filed := sound.filed other present
      exact ⟨filed.counted, filed.listed, staged.symm ▸ filed.serial, filed.root⟩
  | ok response =>
      refine ⟨fun other present => ?_, sound.rooted, sound.given, ?_⟩
      · have filed := sound.filed other present
        exact ⟨filed.counted, filed.listed, staged.symm ▸ filed.serial, filed.root⟩
      · intro reply present
        rcases List.mem_append.mp present with old | new
        · exact sound.replied reply old
        · rw [List.mem_singleton.mp new]
          rcases responds response rfl with ⟨values, rfl, count⟩
          exact ⟨draft.batch.serial, rfl, count.trans filed.counted.symm, filed.listed⟩

omit [Transport σ] in
theorem sound_withDraft (sound : desk.Sound) {number : Nat} {action : Draft → Desk σ}
    (keeps : ∀ draft, desk.drafts[number]? = some draft → (action draft).Sound) :
    (desk.withDraft number action).Sound := by
  unfold withDraft
  split
  · exact keeps _ ‹_›
  · exact sound

theorem sound_make (answers : Answers σ) (sound : desk.Sound) (move : Move) :
    (desk.make move).Sound := by
  cases move with
  | create => exact sound_create sound
  | copy number =>
      exact sound_withDraft sound fun draft there =>
        sound_copy sound (List.mem_of_getElem? there)
  | write number register value =>
      exact sound_withDraft sound fun draft there => sound_write sound there register value
  | read number register =>
      exact sound_withDraft sound fun draft there => sound_read sound there register
  | dispatch number shared =>
      exact sound_withDraft sound fun draft there =>
        sound_dispatch answers sound (List.mem_of_getElem? there) shared

theorem sound_makeAll (answers : Answers σ) (sound : desk.Sound) (moves : List Move) :
    (desk.makeAll moves).Sound := by
  induction moves generalizing desk with
  | nil => exact sound
  | cons move rest induction => exact induction (sound_make answers sound move)

end Desk

/-! ## Promises -/

def Reply.Produces (reply : Reply) (read : Nat) (value : UInt32) : Prop :=
  ∃ place : Nat, reply.reads[place]? = some read ∧ reply.response.values[place]? = some value

/-- Whether a reply keeps the promise that was given for a read: it gives the value of that read,
and nothing if it is not for a batch that has the read. -/
def Reply.Keeps (reply : Reply) (read : Nat) (pending : Pending) : Prop :=
  match reply.response.get pending with
  | .ok value => reply.Produces read value
  | .error error => error = .unresolvedRead ∧ read ∉ reply.reads

namespace Desk

variable {σ : Type}

def rootOf? (desk : Desk σ) (number : Nat) : Option Nat :=
  desk.drafts[number]?.map Draft.root

/-- Whether the batch that a reply is for has, in the place of a promised read, another read that
was staged in another copy of the batch. -/
def Mistakes (desk : Desk σ) (reply : Reply) (promise : Promise) (other : Nat) : Prop :=
  other ∈ reply.reads ∧ ∃ rival : Promise, desk.promises[other]? = some rival ∧
    rival.pending.index = promise.pending.index ∧ rival.draft ≠ promise.draft ∧
    desk.rootOf? rival.draft = desk.rootOf? promise.draft

variable {desk : Desk σ} {promise : Promise} {reply : Reply} {read other serial : Nat}

theorem Sound.home (sound : desk.Sound) (given : desk.promises[read]? = some promise) :
    ∃ draft, desk.drafts[promise.draft]? = some draft ∧
      draft.reads[promise.pending.index]? = some read ∧
      draft.batch.serial = promise.pending.batch := by
  rcases sound.given read promise given with ⟨draft, there, place⟩
  have filed := sound.filed draft (List.mem_of_getElem? there)
  rcases filed.listed _ _ place with ⟨same, again, batch, _⟩
  rw [given] at again
  cases again
  exact ⟨draft, there, place, batch.symm⟩

/-- Reads that were promised alike were staged in copies of one draft, and are the same read if
they were staged in the same one. -/
theorem Sound.rival (sound : desk.Sound) {rival : Promise}
    (given : desk.promises[read]? = some promise) (also : desk.promises[other]? = some rival)
    (place : rival.pending.index = promise.pending.index) :
    (desk.rootOf? rival.draft = desk.rootOf? promise.draft ↔
      rival.pending.batch = promise.pending.batch) ∧
    (rival.draft = promise.draft → other = read) := by
  rcases sound.home given with ⟨draft, there, here, serial⟩
  rcases sound.home also with ⟨draft', there', here', serial'⟩
  refine ⟨?_, ?_⟩
  · rw [rootOf?, rootOf?, there, there', Option.map_some, Option.map_some, Option.some.injEq,
      ← serial, ← serial']
    exact (sound.rooted draft' (List.mem_of_getElem? there') draft
      (List.mem_of_getElem? there)).symm
  · intro same
    rw [same, there] at there'
    cases there'
    rw [place, here] at here'
    exact (Option.some.inj here').symm

theorem get_listed (answers : reply.response.batch = some promise.pending.batch)
    (count : reply.response.values.length = reply.reads.length)
    (here : reply.reads[promise.pending.index]? = some other) :
    ∃ value, reply.response.get promise.pending = .ok value ∧ reply.Produces other value := by
  have inside := (List.getElem?_eq_some_iff.mp here).1
  rw [← count] at inside
  have found := List.getElem?_eq_getElem inside
  refine ⟨reply.response.values[promise.pending.index], ?_, promise.pending.index, here, found⟩
  rw [Response.get, if_pos answers, found]

theorem get_unlisted (count : reply.response.values.length = reply.reads.length)
    (apart : reply.response.batch = some promise.pending.batch →
      reply.reads[promise.pending.index]? = none) :
    reply.response.get promise.pending = .error .unresolvedRead := by
  unfold Response.get
  split
  · rename_i answers
    have outside := apart answers
    rw [List.getElem?_eq_none_iff, ← count, ← List.getElem?_eq_none_iff] at outside
    rw [outside]
  · rfl

theorem Sound.mistakes (sound : desk.Sound) (given : desk.promises[read]? = some promise)
    (replied : reply ∈ desk.replies) (mistakes : desk.Mistakes reply promise other) :
    reply.reads[promise.pending.index]? = some other ∧
      ∃ value, reply.response.get promise.pending = .ok value ∧ reply.Produces other value := by
  rcases mistakes with ⟨member, rival, also, index, _, roots⟩
  rcases sound.replied reply replied with ⟨serial, answers, count, listed⟩
  rcases List.mem_iff_getElem?.mp member with ⟨place, here⟩
  rcases listed place other here with ⟨same, again, batch, position⟩
  rw [also] at again
  cases again
  have alike := (sound.rival given also index).1.mp roots
  rw [← position, index] at here
  refine ⟨here, get_listed ?_ count here⟩
  rw [answers, ← alike, batch]

theorem Sound.breaks (sound : desk.Sound) (given : desk.promises[read]? = some promise)
    (replied : reply ∈ desk.replies) (mistakes : desk.Mistakes reply promise other) :
    ¬reply.Keeps read promise.pending := by
  intro keeps
  rcases sound.replied reply replied with ⟨serial, _, _, listed⟩
  rcases sound.mistakes given replied mistakes with ⟨here, value, got, _⟩
  rw [Reply.Keeps, got] at keeps
  rcases keeps with ⟨place, there, _⟩
  rcases listed place read there with ⟨same, again, _, position⟩
  rw [given] at again
  cases again
  rw [position, there] at here
  cases here
  rcases mistakes with ⟨_, rival, also, _, apart, _⟩
  rw [given] at also
  cases also
  exact apart rfl

theorem Sound.keeps (sound : desk.Sound) (given : desk.promises[read]? = some promise)
    (replied : reply ∈ desk.replies) (apart : ∀ other, ¬desk.Mistakes reply promise other) :
    reply.Keeps read promise.pending := by
  rcases sound.replied reply replied with ⟨serial, answers, count, listed⟩
  by_cases found : reply.response.batch = some promise.pending.batch ∧
      ∃ other, reply.reads[promise.pending.index]? = some other
  · -- The reply has a value in the place of the read, which is the read itself.
    rcases found with ⟨right, other, here⟩
    rcases get_listed right count here with ⟨value, got, produced⟩
    rcases listed _ other here with ⟨rival, also, batch, index⟩
    have alike : rival.pending.batch = promise.pending.batch :=
      batch.trans (Option.some.inj (answers.symm.trans right))
    rcases sound.rival given also index with ⟨roots, same⟩
    by_cases home : rival.draft = promise.draft
    · rw [Reply.Keeps, got, ← same home]
      exact produced
    · have mistakes : desk.Mistakes reply promise other :=
        ⟨List.mem_of_getElem? here, rival, also, index, home, roots.mpr alike⟩
      exact absurd mistakes (apart other)
  · have missed : reply.response.batch = some promise.pending.batch →
        reply.reads[promise.pending.index]? = none := by
      intro right
      rw [Option.eq_none_iff_forall_ne_some]
      exact fun other here => found ⟨right, other, here⟩
    rw [Reply.Keeps, get_unlisted count missed]
    refine ⟨rfl, fun member => ?_⟩
    rcases List.mem_iff_getElem?.mp member with ⟨place, here⟩
    rcases listed place read here with ⟨same, again, batch, position⟩
    rw [given] at again
    cases again
    rw [← position] at here
    exact found ⟨answers.trans (congrArg some batch.symm), read, here⟩

/-- Whatever is done at a desk, a reply keeps a promise unless it takes another read for the
promised one, and then it gives the value of that other read. -/
theorem keeps_iff {σ : Type} [Transport σ] (answers : Answers σ) (board : Board σ)
    (moves : List Move) (read : Nat) (promise : Promise) (reply : Reply)
    (given : ((Desk.on board).makeAll moves).promises[read]? = some promise)
    (replied : reply ∈ ((Desk.on board).makeAll moves).replies) :
    let desk := (Desk.on board).makeAll moves
    (reply.Keeps read promise.pending ↔ ∀ other, ¬desk.Mistakes reply promise other) ∧
      ∀ other, desk.Mistakes reply promise other →
        ∃ value, reply.response.get promise.pending = .ok value ∧
          reply.Produces other value := by
  intro desk
  have sound : desk.Sound := sound_makeAll answers (sound_on board) moves
  refine ⟨⟨?_, sound.keeps given replied⟩, ?_⟩
  · exact fun keeps other mistakes => sound.breaks given replied mistakes keeps
  · exact fun other mistakes => (sound.mistakes given replied mistakes).2

theorem keeps_in_copy :
    let desk := (Desk.on (.ofTransport (RegisterFile.ofRegisters ["a"]))).makeAll
      [.create, .read 0 "a", .copy 0, .read 1 "a", .dispatch 1 false]
    let promise : Promise := { pending := { batch := 0, index := 0 }, draft := 0 }
    let reply : Reply :=
      { response := { batch := some 0, values := [0, 0] }, reads := [0, 1] }
    Answers RegisterFile ∧ desk.promises[0]? = some promise ∧ reply ∈ desk.replies ∧
      reply.Keeps 0 promise.pending := by
  intro desk promise reply
  have given : desk.promises[0]? = some promise := by rfl
  have also : desk.promises[1]? =
      some { pending := { batch := 0, index := 1 }, draft := 1 } := by rfl
  have replied : reply ∈ desk.replies := List.mem_of_getElem? (i := 0) (by rfl)
  have kept := (keeps_iff RegisterFile.answers _ _ 0 promise reply given replied).1
  refine ⟨RegisterFile.answers, given, replied, kept.mpr ?_⟩
  rintro other ⟨listed, rival, promised, place, apart, _⟩
  have first : other = 0 ∨ other = 1 := by simpa [reply] using listed
  rcases first with rfl | rfl
  · cases given.symm.trans promised
    exact apart rfl
  · cases also.symm.trans promised
    exact absurd place (by decide)

/-- Two copies are extended by a read each. The reply to one of them answers the promise that came
with the read of the other. -/
theorem copies_mistaken :
    let desk := (Desk.on (.ofTransport (RegisterFile.ofRegisters ["a", "b"]))).makeAll
      [.create, .copy 0, .read 0 "a", .write 1 "b" 2, .read 1 "b", .dispatch 1 false]
    let promise : Promise := { pending := { batch := 0, index := 0 }, draft := 0 }
    let reply : Reply := { response := { batch := some 0, values := [2] }, reads := [1] }
    Answers RegisterFile ∧ desk.promises[0]? = some promise ∧ reply ∈ desk.replies ∧
      reply.response.get promise.pending = .ok 2 ∧ ¬reply.Keeps 0 promise.pending := by
  intro desk promise reply
  refine ⟨RegisterFile.answers, by rfl, List.mem_of_getElem? (i := 0) (by rfl), by rfl, ?_⟩
  rintro ⟨place, listed, _⟩
  have member := List.mem_of_getElem? listed
  revert member
  decide

end Desk

end ClockBoard.Link
