import ClockBoard.Proofs.Chip.Si5326
import ClockBoard.Proofs.Chip.Si534x
import ClockBoard.Proofs.Simulation.Built
import ClockBoard.Proofs.Simulation.Trial
import ClockBoard.Proofs.Upload.Contents

/-!
What the chips hold after an upload, whatever goes wrong during it.

The main statement says that a register that is not reported as failed holds the value that was
assigned to it last. The register that selects the page of a paged chip is left out, for it changes
with the page.
-/

namespace ClockBoard.Chip

open ClockBoard.Link ClockBoard.Simulation ClockBoard.Upload

variable {bus : Bus} {before after : Circuit} {toll : Toll}

def uploadOn {σ α : Type} [Transport σ] (bus : Bus) (write : UInt16 → UInt8 → Action Unit)
    (routine : Routine Upload.interface α) (board : Board σ) : α × Board σ :=
  board.run ((upload write routine).carryOut (Handle.carry bus false))

theorem configure_run {σ : Type} [Transport σ] (bus : Bus) (write : UInt16 → UInt8 → Action Unit)
    (routine : Routine Upload.interface (Except Upload.Error Outcome)) (board : Board σ) :
    board.run ((configure write routine).run.carryOut (Handle.carry bus false)) =
      ((uploadOn bus write routine board).1.mapError Error.upload,
        (uploadOn bus write routine board).2) := by
  change board.run (((upload write routine).bind fun answer =>
    .done (answer.mapError Error.upload)).carryOut (Handle.carry bus false)) = _
  rw [Routine.carryOut_bind, Board.run, Routine.run_bind]
  rfl

/-- Whether a way to write registers puts them where they belong in a slave of a certain build. A
write may touch registers that do not count, but of those that do none but its own. -/
def Places (bus : Bus) (write : UInt16 → UInt8 → Action Unit) (target : UInt8) (shape : Bool × Nat)
    (Counts : UInt16 → Prop) : Prop :=
  ∀ ⦃address value before slave result after toll⦄, before.node = bus.node →
    before.slave? target = some slave → slave.shape = shape →
    (write address value).run.Possible (Handle.Served bus) before result after toll →
    ∃ done turned, before.Turned target turned after ∧ slave.Wrote done turned ∧
      (∀ entry ∈ done, Counts entry.1 → entry.1 = address) ∧
      (result = .ok () → address.toNat < shape.2 ∧ ∃ first, done = first ++ [(address, value)])

def contentAt (target : UInt8) (size : Nat) (circuit : Circuit) (register : UInt16) :
    Option UInt8 :=
  if register.toNat < size then (circuit.slave? target).map fun slave => slave.get register
  else none

theorem contentAt_attached {target : UInt8} {size : Nat} {circuit : Circuit} {slave : Slave}
    {register : UInt16} (attached : circuit.slave? target = some slave)
    (inside : register.toNat < size) :
    contentAt target size circuit register = some (slave.get register) := by
  rw [contentAt, if_pos inside, attached, Option.map_some]

namespace Places

variable {write : UInt16 → UInt8 → Action Unit} {target : UInt8} {shape : Bool × Nat}
variable {Counts : UInt16 → Prop}

def holding (places : Places bus write target shape Counts) : Holding (Writes bus write) where
  Ready circuit := circuit.node = bus.node ∧ circuit.shape? target = some shape
  Counts := Counts
  content := contentAt target shape.2
  ready possible ready := by
    have lasting := Handle.served_lasting possible
    exact ⟨lasting.node.trans ready.1, (lasting.shape target).trans ready.2⟩
  settled settled := by rw [(writes_settle settled).1]
  noted noted := by rw [(writes_note noted).1]
  others {address value before answer after toll} written ready other counts differs := by
    rcases writes_write written with ⟨result, possible, _⟩
    rcases Option.map_eq_some_iff.mp ready.2 with ⟨slave, attached, build⟩
    rcases places ready.1 attached build possible with
      ⟨done, turned, becomes, wrote, own, _⟩
    unfold contentAt
    split
    · rename_i inside
      rw [attached, becomes.slave?]
      have size : slave.memory.size = shape.2 := congrArg Prod.snd build
      refine congrArg some (wrote.get_other (size ▸ inside) ?_)
      intro entry member same
      exact differs (same ▸ own entry member (same.symm ▸ counts))
    · rfl
  taken {address value before after toll} written ready counts := by
    rcases writes_write written with ⟨result, possible, answer⟩
    rcases Option.map_eq_some_iff.mp ready.2 with ⟨slave, attached, build⟩
    cases result with
    | error error => cases answer
    | ok _ =>
        rcases places ready.1 attached build possible with
          ⟨done, turned, becomes, wrote, _, last⟩
        rcases last rfl with ⟨inside, first, rfl⟩
        have size : slave.memory.size = shape.2 := congrArg Prod.snd build
        rw [contentAt, if_pos inside, becomes.slave?]
        exact congrArg some (wrote.get_last (size ▸ inside))

theorem get_of_reflects (places : Places bus write target shape Counts)
    {assignments : List Assignment} {failures : List Failure} {slave : Slave} {mode : Mode}
    {result : Except Upload.Error Outcome} (concluded : result = conclude mode failures)
    (reflects : places.holding.Reflects assignments failures before.calm after.calm toll)
    (node : before.node = bus.node) (attached : before.slave? target = some slave)
    (build : slave.shape = shape) {address : UInt16} {value : UInt8}
    (last : lastValue? assignments address = some value)
    (spared : address ∉ (reported result).map Failure.address) (counts : Counts address) :
    ∃ held, after.slave? target = some held ∧ held.get address = value := by
  have known : before.calm.shape? target = some shape := by
    rw [Circuit.calm_shape?, ← build]
    exact congrArg (Option.map Slave.shape) attached
  rcases reflects ⟨node, known⟩ with ⟨_, contents⟩
  have content : contentAt target shape.2 after.calm address = some value := by
    rw [concluded, reported_conclude] at spared
    have equal := contents address counts spared
    rwa [last] at equal
  unfold contentAt at content
  split at content
  · rcases Option.map_eq_some_iff.mp content with ⟨calmed, present, equal⟩
    rcases Circuit.slave?_of_calm present with ⟨held, found, rfl⟩
    exact ⟨held, found, equal⟩
  · cases content

end Places

/-! ## Chips -/

theorem Si534x.places (bus : Bus) (chip : Si534x) :
    Places bus chip.writeRegister chip.handle.address (true, 0x10000)
      fun register => lowByte register ≠ pageRegister := by
  intro address value before slave result after toll node attached build possible
  have paged : slave.paged = true := congrArg Prod.fst build
  rcases Si534x.runs_writeRegister node paged attached possible with
    ⟨done, turned, isPrefix, becomes, wrote, ends⟩
  refine ⟨done, turned, becomes, wrote, ?_, ?_⟩
  · intro entry member counts
    rcases List.mem_append.mp (isPrefix.subset member) with turning | own
    · exact absurd (Si534x.lowByte_of_mem_turningTo turning) counts
    · rw [List.mem_singleton.mp own]
  · rintro rfl
    exact ⟨address.toNat_lt, _, ends.1⟩

theorem Si5326.places (bus : Bus) (chip : Si5326) :
    Places bus chip.writeRegister chip.handle.address (false, 0x100) fun _ => True := by
  intro address value before slave result after toll node attached build possible
  have flat : slave.paged = false := congrArg Prod.fst build
  by_cases small : address ≤ 0xFF
  · rcases Si5326.runs_writeRegister node flat small attached possible with
      ⟨done, turned, isPrefix, becomes, wrote, ends⟩
    refine ⟨done, turned, becomes, wrote, ?_, ?_⟩
    · intro entry member _
      rw [List.mem_singleton.mp (isPrefix.subset member)]
    · rintro rfl
      have bound : address.toNat ≤ 0xFF := UInt16.le_iff_toNat_le.mp small
      exact ⟨Nat.lt_succ_of_le bound, [], ends.1⟩
  · rcases Si5326.possible_writeRegister_past small possible with ⟨rfl, rfl, rfl⟩
    exact ⟨[], slave, .of_same attached fun _ => rfl, .refl slave, nofun, nofun⟩

/-- A register that an upload does not report as failed holds what was assigned to it last. -/
theorem unreported_registers_hold (bus : Bus) (policy : Policy) (board : Board Trial)
    (free : board.access = .free) (node : board.transport.circuit.node = bus.node)
    (built : board.transport.circuit.Built) :
    (∀ (chip : Si534x) (listing : Listing.Sectioned) (slave : Slave),
      board.transport.circuit.slave? chip.handle.address = some slave → slave.paged = true →
      let ran := uploadOn bus chip.writeRegister (uploadSectioned policy listing) board
      ∀ address value,
        lastValue? (listing.preamble ++ listing.registers ++ listing.postamble) address =
          some value →
        address ∉ (reported ran.1).map Failure.address → lowByte address ≠ pageRegister →
        ∃ held, ran.2.transport.circuit.slave? chip.handle.address = some held ∧
          held.get address = value) ∧
    (∀ (chip : Si5326) (assignments : List Assignment) (slave : Slave),
      board.transport.circuit.slave? chip.handle.address = some slave → slave.paged = false →
      let ran := uploadOn bus chip.writeRegister (uploadPlain policy assignments) board
      ∀ address value, lastValue? assignments address = some value →
        address ∉ (reported ran.1).map Failure.address →
        ∃ held, ran.2.transport.circuit.slave? chip.handle.address = some held ∧
          held.get address = value) := by
  constructor
  · intro chip listing slave attached paged ran address value last spared counts
    have build := (built.sound attached).paged_shape paged
    have places := Si534x.places bus chip
    rcases upload_possible Trial.hosting board free with ⟨toll, possible, _⟩
    rcases (places.holding.account policy).uploadSectioned possible with ⟨_, result, reflects⟩
    exact places.get_of_reflects result reflects node attached build last spared counts
  · intro chip assignments slave attached flat ran address value last spared
    have build := (built.sound attached).flat_shape flat
    have places := Si5326.places bus chip
    rcases upload_possible Trial.hosting board free with ⟨toll, possible, _⟩
    rcases (places.holding.account policy).uploadPlain possible with ⟨_, result, reflects⟩
    exact places.get_of_reflects result reflects node attached build last spared trivial

theorem unreported_registers_hold_stalled :
    let bus : Bus := { node := "i2c", config := {}, slaves := .empty }
    let paged : Si534x := { handle := { address := 0x68 } }
    let flat : Si5326 := { handle := { address := 0x69 } }
    let board := Board.ofTransport
      (Trial.on (((Circuit.ofNode "i2c").attach 0x68 .pages).attach 0x69 .flat)
        fun batch => if batch = 12 then [.stall 30] else [])
    let listing : Listing.Sectioned := {
      preamble := [⟨0x0B24, 0xC0⟩]
      registers := [⟨0x0001, 0x07⟩]
      postamble := [⟨0x0B24, 0xD8⟩] }
    let first := uploadOn bus paged.writeRegister (uploadSectioned {} listing) board
    let second := uploadOn bus flat.writeRegister
      (uploadPlain {} [⟨0x10, 0x01⟩, ⟨0x100, 0x02⟩, ⟨0x10, 0x03⟩]) board
    (∃ held, first.2.transport.circuit.slave? 0x68 = some held ∧ held.get 0x0B24 = 0xD8) ∧
      ∃ held, second.2.transport.circuit.slave? 0x69 = some held ∧ held.get 0x10 = 0x03 := by
  intro bus paged flat board listing first second
  have built : board.transport.circuit.Built :=
    .attach (.attach (.ofNode "i2c") 0x68 .pages (.inl rfl)) 0x69 .flat (.inr rfl)
  have flatAttached : board.transport.circuit.slave? flat.handle.address = some .flat :=
    (Table.get?_insert _ _ _ _).trans (if_pos rfl)
  have pagedAttached : board.transport.circuit.slave? paged.handle.address = some .pages :=
    (Table.get?_insert _ _ _ _).trans
      ((if_neg (by decide)).trans ((Table.get?_insert _ _ _ _).trans (if_pos rfl)))
  rcases unreported_registers_hold bus {} board rfl rfl built with ⟨onPaged, onFlat⟩
  have isFirst : first = uploadOn bus paged.writeRegister (uploadSectioned {} listing) board := rfl
  have isSecond : second = uploadOn bus flat.writeRegister
      (uploadPlain {} [⟨0x10, 0x01⟩, ⟨0x100, 0x02⟩, ⟨0x10, 0x03⟩]) board := rfl
  constructor
  · have holds := onPaged paged listing .pages pagedAttached rfl
    rw [← isFirst] at holds
    exact holds 0x0B24 0xD8 (by decide) (by decide +kernel +zetaReduce) (by decide)
  · have holds := onFlat flat [⟨0x10, 0x01⟩, ⟨0x100, 0x02⟩, ⟨0x10, 0x03⟩] .flat flatAttached rfl
    rw [← isSecond] at holds
    exact holds 0x10 0x03 (by decide) (by decide +kernel +zetaReduce)

end ClockBoard.Chip
