import Mathlib.Control.Monad.Basic
import ClockBoard.Proofs.Chip.Retries

/-!
What an upload to a paged chip writes when nothing goes wrong: each assignment once and in order,
with a switch of the page before it only where the chip is not on the right page already. An
assignment to the register that selects the page moves the chip like a switch does.

The main statement is about whole texts, which are either not well formed, and then nothing happens,
or uploaded exactly.
-/

namespace ClockBoard.Chip.Si534x

open ClockBoard.Bus ClockBoard.Link ClockBoard.Simulation ClockBoard.Upload

variable {bus : Bus} {chip : Si534x} {policy : Policy} {before after : Circuit} {toll : Toll}

/-! ## Itineraries -/

def pageBehind (assignment : Assignment) : UInt8 :=
  if lowByte assignment.address = pageRegister then assignment.value
  else highByte assignment.address

/-- The register writes that bring assignments into a chip that is on a page. -/
def itinerary : (page : UInt8) → List Assignment → List (UInt16 × UInt8)
  | _, [] => []
  | page, assignment :: rest =>
      plan page assignment.address assignment.value ++ itinerary (pageBehind assignment) rest

def lastPage : (page : UInt8) → List Assignment → UInt8
  | page, [] => page
  | _, assignment :: rest => lastPage (pageBehind assignment) rest

theorem lastPage_append (page : UInt8) (assignments others : List Assignment) :
    lastPage page (assignments ++ others) = lastPage (lastPage page assignments) others := by
  induction assignments generalizing page with
  | nil => rfl
  | cons assignment rest induction => exact induction (pageBehind assignment)

theorem itinerary_append (page : UInt8) (assignments others : List Assignment) :
    itinerary page (assignments ++ others) =
      itinerary page assignments ++ itinerary (lastPage page assignments) others := by
  induction assignments generalizing page with
  | nil => rfl
  | cons assignment rest induction =>
      rw [List.cons_append, itinerary, induction, itinerary, List.append_assoc]
      rfl

theorem page_of_wrote {slave held : Slave} {assignment : Assignment} (paged : slave.paged = true)
    (wrote : slave.Wrote (plan slave.page assignment.address assignment.value) held) :
    held.page = pageBehind assignment := by
  rcases wrote with ⟨pointer, rfl⟩
  have turned : ∀ turned : Slave, turned.paged = true → turned.page = highByte assignment.address →
      (turned.apply (assignment.address, assignment.value)).page = pageBehind assignment := by
    intro turned paged placed
    have same : pageRegister = Simulation.pageRegister := rfl
    by_cases own : lowByte assignment.address = pageRegister
    · simp [Slave.apply, pageBehind, paged, own, ← same]
    · simp [Slave.apply, pageBehind, placed, own, ← same]
  rw [plan, turningTo]
  split
  · rename_i placed
    exact turned slave paged placed
  · refine turned _ paged ?_
    simp [Slave.apply, paged, pageRegister, Simulation.pageRegister]

/-! ## Uploads -/

/-- Whether assignments were written by their itinerary, if nothing can be blamed for a failure. -/
def Follows (bus : Bus) (chip : Si534x) (assignments : List Assignment) (failures : List Failure)
    (before after : Circuit) (toll : Toll) : Prop :=
  ¬toll.Blames bus.config.pollAttempts chip.handle.address → (charging bus chip).Ready before →
    (charging bus chip).Ready after ∧ failures = [] ∧
      ∀ slave, before.slave? chip.handle.address = some slave →
        ∃ held, before.Turned chip.handle.address held after ∧
          slave.Wrote (itinerary slave.page assignments) held ∧
          held.page = lastPage slave.page assignments

theorem follows_idle (same : after = before) : Follows bus chip [] [] before after toll := by
  subst same
  intro _ ready
  refine ⟨ready, rfl, ?_⟩
  intro slave attached
  exact ⟨slave, .of_same attached fun _ => rfl, .refl slave, rfl⟩

theorem not_tried {assignment : Assignment} {count : Nat}
    (faultless : ¬toll.Blames bus.config.pollAttempts chip.handle.address)
    (ready : (charging bus chip).Ready before)
    (tried : Tried (Writes bus chip.writeRegister) assignment count before after toll) :
    count = 0 ∧ after = before ∧ toll = 0 := by
  cases tried with
  | never world => exact ⟨rfl, rfl, rfl⟩
  | again reason event failed noted rest =>
      rcases ready with ⟨node, progress, shape, usable⟩
      rcases writes_write failed with ⟨result, written, answer⟩
      rcases Option.map_eq_some_iff.mp shape with ⟨slave, attached, build⟩
      have paged : slave.paged = true := congrArg Prod.fst build
      cases result with
      | ok _ => cases answer
      | error error =>
          rcases runs_writeRegister node paged attached written with ⟨_, _, _, _, _, blames⟩
          exact absurd ((blames usable progress).add_right _) faultless

theorem follows_account (bus : Bus) (chip : Si534x) (policy : Policy) :
    Account (Writes bus chip.writeRegister) policy (Follows bus chip) where
  idle _ := follows_idle rfl
  settle settled := follows_idle (writes_settle settled).1
  note noted := follows_idle (writes_note noted).1
  write {assignment failure? before after toll} possible faultless ready := by
    rcases possible_writeAssignment possible with
      ⟨rfl, count, middle, first, rest, tried, taken, rfl⟩ | ⟨failure, rfl, _, tried⟩
    · rcases not_tried (fun blames => faultless (blames.add_right rest)) ready tried with
        ⟨_, rfl, rfl⟩
      rw [zero_add] at faultless
      refine ⟨(charging bus chip).ready taken (Toll.failed_of_not_blames faultless) ready, rfl, ?_⟩
      intro slave attached
      rcases ready with ⟨node, _, shape, _⟩
      have paged : slave.paged = true := by
        rw [Circuit.shape?, attached] at shape
        exact congrArg Prod.fst (Option.some.inj shape)
      rcases writes_write taken with ⟨result, written, answer⟩
      cases result with
      | error error => cases answer
      | ok _ =>
          rcases runs_writeRegister node paged attached written with
            ⟨_, held, _, turned, wrote, rfl, _, _⟩
          refine ⟨held, turned, ?_, page_of_wrote paged wrote⟩
          rwa [itinerary, itinerary, List.append_nil]
    · have none := (not_tried faultless ready tried).1
      omega
  trans one two faultless ready := by
    rcases one (fun blames => faultless (blames.add_right _)) ready with ⟨reached, rfl, first⟩
    rcases two (fun blames => faultless (blames.add_left _)) reached with ⟨last, rfl, second⟩
    refine ⟨last, rfl, ?_⟩
    intro slave attached
    rcases first slave attached with ⟨middle, turned, wrote, page⟩
    rcases second middle turned.slave? with ⟨held, becomes, more, final⟩
    refine ⟨held, turned.trans becomes, ?_, ?_⟩
    · rw [itinerary_append, ← page]
      exact wrote.trans more
    · rw [lastPage_append, final, page]

section Boards

variable {board : Board Circuit} {slave : Slave}

theorem uploadSectioned_exact (policy : Policy) (listing : Listing.Sectioned)
    (free : board.access = .free) (node : board.transport.node = bus.node)
    (built : board.transport.Built) (usable : bus.Usable board.transport)
    (attached : board.transport.slave? chip.handle.address = some slave)
    (paged : slave.paged = true) (polls : 1 ≤ bus.config.pollAttempts)
    (stalls : board.transport.stalls = 0) (losses : board.transport.losses = 0)
    (refusals : slave.refusals = 0) :
    let assignments := listing.preamble ++ listing.registers ++ listing.postamble
    let ran := uploadOn bus chip.writeRegister (uploadSectioned policy listing) board
    ran.1 = .ok .allApplied ∧ ∃ held,
      ran.2.transport.slave? chip.handle.address = some held ∧
      held.writes.toList = slave.writes.toList ++ itinerary slave.page assignments ∧
      ∀ register, lowByte register ≠ pageRegister →
        held.get register = (lastValue? assignments register).getD (slave.get register) := by
  intro assignments ran
  have build := (built.sound attached).paged_shape paged
  have calmed := Circuit.calm_attached attached
  have shape : board.transport.calm.shape? chip.handle.address = some (true, 0x10000) := by
    rw [Circuit.shape?, calmed, ← build]
    rfl
  have patient := (Circuit.refusalsAt_attached attached).trans refusals
  rcases upload_possible Circuit.hosting board free with ⟨toll, possible, settles⟩
  have faultless := settles.faultless polls stalls losses patient
  rcases (follows_account bus chip policy).uploadSectioned possible with ⟨failures, ends, follows⟩
  rcases follows faultless ⟨node, built.progress, shape, usable⟩ with ⟨_, rfl, kept⟩
  rcases kept slave.calm calmed with ⟨calmHeld, turned, wrote, _⟩
  rcases Circuit.slave?_of_calm turned.slave? with ⟨held, found, rfl⟩
  refine ⟨ends, held, found, wrote.writes, ?_⟩
  intro register counts
  -- What the registers hold follows from the account of contents of the same run.
  have places := Si534x.places bus chip
  rcases (places.holding.account policy).uploadSectioned possible with ⟨others, same, reflects⟩
  have none : others = [] := by
    rw [← reported_conclude policy.mode others, ← same, ends, reported_conclude]
  rcases reflects ⟨node, shape⟩ with ⟨_, contents⟩
  have content := contents register counts (by simp [none])
  change contentAt _ 0x10000 _ _ =
    Option.or _ (contentAt _ 0x10000 board.transport.calm _) at content
  rw [contentAt_attached turned.slave? register.toNat_lt,
    contentAt_attached calmed register.toNat_lt] at content
  cases value : lastValue? assignments register with
  | none =>
      rw [value] at content
      exact Option.some.inj content
  | some last =>
      rw [value] at content
      exact Option.some.inj content

end Boards

/-- A text that is not well formed leaves everything as it is. Any other is uploaded by its
itinerary when nothing is about to go wrong, and each register holds what was assigned to it
last. -/
theorem configureText_exact (bus : Bus) (chip : Si534x) (policy : Policy) (text : String)
    (board : Board Circuit) (slave : Slave) (free : board.access = .free)
    (node : board.transport.node = bus.node) (built : board.transport.Built)
    (usable : bus.Usable board.transport)
    (attached : board.transport.slave? chip.handle.address = some slave)
    (paged : slave.paged = true) (polls : 1 ≤ bus.config.pollAttempts)
    (stalls : board.transport.stalls = 0) (losses : board.transport.losses = 0)
    (refusals : slave.refusals = 0) :
    let ran := board.run ((chip.configureText policy text).run.carryOut (Handle.carry bus false))
    (∀ error, Listing.parseSectioned text = .error error →
      ran = (.error (.upload (.parse error)), board)) ∧
    (∀ listing, Listing.parseSectioned text = .ok listing →
      let assignments := listing.preamble ++ listing.registers ++ listing.postamble
      ran.1 = .ok .allApplied ∧ ∃ held,
        ran.2.transport.slave? chip.handle.address = some held ∧
        held.writes.toList = slave.writes.toList ++ itinerary slave.page assignments ∧
        ∀ register, lowByte register ≠ pageRegister →
          held.get register = (lastValue? assignments register).getD (slave.get register)) := by
  intro ran
  have isRan : ran = ((uploadOn bus chip.writeRegister (uploadText policy .sectioned text)
      board).1.mapError Error.upload,
      (uploadOn bus chip.writeRegister (uploadText policy .sectioned text) board).2) :=
    configure_run bus chip.writeRegister (uploadText policy .sectioned text) board
  constructor
  · intro error malformed
    rw [isRan, uploadText, malformed]
    rfl
  · intro listing parsed assignments
    have exact := uploadSectioned_exact policy listing free node built usable attached paged
      polls stalls losses refusals
    rw [isRan, uploadText, parsed]
    rcases exact with ⟨applied, holds⟩
    exact ⟨congrArg (Except.mapError Error.upload) applied, holds⟩

/-- An assignment to the register that selects the page saves the switch before the next one. -/
theorem configureText_exact_page :
    let bus : Bus := { node := "i2c", config := {}, slaves := .empty }
    let chip : Si534x := { handle := { address := 0x68 } }
    let board := Board.ofTransport ((Circuit.ofNode "i2c").attach 0x68 .pages)
    let lines := [ "# Start configuration preamble", "0x0B24,0xC0", "# End configuration preamble",
      "# Start configuration registers", "0x0B25,0x01", "0x0001,0x03", "0x0302,0x07",
      "# End configuration registers", "# Start configuration postamble", "0x0B24,0xD8",
      "# End configuration postamble" ]
    let text := String.ofList (lines.flatMap fun line => line.toList ++ ['\n'])
    let ran := board.run ((chip.configureText {} text).run.carryOut (Handle.carry bus false))
    ran.1 = .ok .allApplied ∧ ∃ held,
      ran.2.transport.slave? chip.handle.address = some held ∧
      held.writes.toList =
        [ (0x0001, 0x0B), (0x0B24, 0xC0), (0x0B25, 0x01), (0x0B01, 0x00), (0x0001, 0x03),
          (0x0302, 0x07), (0x0301, 0x0B), (0x0B24, 0xD8) ] ∧
      held.get 0x0B24 = 0xD8 := by
  intro bus chip board lines text ran
  have built : board.transport.Built := .attach (.ofNode "i2c") 0x68 .pages (.inl rfl)
  have usable : bus.Usable board.transport := .inr (by decide)
  have attached : board.transport.slave? chip.handle.address = some .pages :=
    (Table.get?_insert _ _ _ _).trans (if_pos rfl)
  have characters : text.toList = lines.flatMap fun line => line.toList ++ ['\n'] :=
    String.toList_ofList
  have parsed : Listing.parseSectioned text = .ok {
      preamble := [⟨0x0B24, 0xC0⟩]
      registers := [⟨0x0B25, 0x01⟩, ⟨0x0001, 0x03⟩, ⟨0x0302, 0x07⟩]
      postamble := [⟨0x0B24, 0xD8⟩] } := by
    rw [Listing.parseSectioned, Listing.parseSections, Listing.linesOf, characters]
    decide +kernel +zetaReduce
  have listed : Slave.pages.writes.toList ++ itinerary Slave.pages.page
      [⟨0x0B24, 0xC0⟩, ⟨0x0B25, 0x01⟩, ⟨0x0001, 0x03⟩, ⟨0x0302, 0x07⟩, ⟨0x0B24, 0xD8⟩] =
      [ (0x0001, 0x0B), (0x0B24, 0xC0), (0x0B25, 0x01), (0x0B01, 0x00), (0x0001, 0x03),
        (0x0302, 0x07), (0x0301, 0x0B), (0x0B24, 0xD8) ] := by
    decide +kernel
  have isRan : ran = board.run ((chip.configureText {} text).run.carryOut
      (Handle.carry bus false)) := rfl
  have holds := (configureText_exact bus chip {} text board .pages rfl rfl built usable attached rfl
    (by decide) rfl rfl rfl).2 _ parsed
  rw [← isRan] at holds
  rcases holds with ⟨applied, held, found, writes, contents⟩
  have content := contents 0x0B24 (by decide)
  exact ⟨applied, held, found, writes.trans listed, content⟩

end ClockBoard.Chip.Si534x
