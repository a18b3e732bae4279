import ClockBoard.Proofs.Simulation.Toll

/-!
What a slave holds after it has taken bytes. The first byte of a block sets the pointer and every
other one is stored; each byte that is stored is a register write, and apart from the pointer the
slave is what its register writes have made of it.
-/

namespace ClockBoard.Simulation.Slave

def put (slave : Slave) (value : UInt8) : Slave :=
  { slave with
    memory := slave.memory.setIfInBounds slave.current.toNat value
    writes := slave.writes.push (slave.current, value)
    page := if slave.atPageRegister then value else slave.page
    pointer := slave.pointer + 1 }

theorem store_eq (slave : Slave) (value : UInt8) :
    slave.store value =
      if slave.refusals > 0 then (false, { slave with refusals := slave.refusals - 1 })
      else (true, slave.put value) := rfl

@[simp] theorem calm_load (slave : Slave) : slave.load.2.calm = slave.calm.load.2 := rfl

theorem load_calm_fst (slave : Slave) : slave.calm.load.1 = slave.load.1 := rfl

/-- Take one byte of a block, which sets the pointer unless an earlier one has. -/
def accept (pointed : Bool) (slave : Slave) (byte : UInt8) : Slave :=
  if pointed then slave.put byte else slave.pointTo byte

theorem calm_accept (pointed : Bool) (slave : Slave) (byte : UInt8) :
    (slave.accept pointed byte).calm = slave.calm.accept pointed byte := by
  cases pointed <;> rfl

def acceptAll : (pointed : Bool) → Slave → List UInt8 → Slave
  | _, slave, [] => slave
  | pointed, slave, byte :: rest => acceptAll true (accept pointed slave byte) rest

def loadAll : (count : Nat) → Slave → List UInt8 × Slave
  | 0, slave => ([], slave)
  | count + 1, slave =>
      let loaded := slave.load
      let rest := loadAll count loaded.2
      (loaded.1 :: rest.1, rest.2)

theorem add_ofNat_succ (register : UInt8) (index : Nat) :
    register + UInt8.ofNat (index + 1) = register + 1 + UInt8.ofNat index := by
  rw [UInt8.ofNat_add, UInt8.add_assoc, UInt8.add_comm (UInt8.ofNat index)]
  rfl

theorem loadAll_eq (count : Nat) (slave : Slave) :
    slave.loadAll count =
      ((List.range count).map fun index =>
          (slave.pointTo (slave.pointer + UInt8.ofNat index)).load.1,
        slave.pointTo (slave.pointer + UInt8.ofNat count)) := by
  induction count generalizing slave with
  | zero => simp [loadAll, pointTo]
  | succ count induction =>
      have moved : slave.load.2 = slave.pointTo (slave.pointer + 1) := rfl
      have here : slave.pointTo (slave.pointer + UInt8.ofNat 0) = slave := by simp [pointTo]
      rw [loadAll, moved, induction, List.range_succ_eq_map, List.map_cons, List.map_map, here,
        add_ofNat_succ]
      refine Prod.ext (congrArg (List.cons _) ?_) rfl
      apply List.map_congr_left
      intro index _
      rw [Function.comp, Nat.succ_eq_add_one, add_ofNat_succ]
      rfl

theorem loadAll_pointTo (count : Nat) (slave : Slave) :
    ∃ pointer, (slave.loadAll count).2 = slave.pointTo pointer :=
  ⟨_, congrArg Prod.snd (loadAll_eq count slave)⟩

/-! ## Register writes -/

def apply (slave : Slave) (write : UInt16 × UInt8) : Slave :=
  { slave with
    memory := slave.memory.setIfInBounds write.1.toNat write.2
    writes := slave.writes.push write
    page := if slave.paged && lowByte write.1 == pageRegister then write.2 else slave.page }

/-- Whether register writes, and moves of the pointer, have made a slave what it is. -/
def Wrote (before : Slave) (writes : List (UInt16 × UInt8)) (after : Slave) : Prop :=
  ∃ pointer, after = (writes.foldl apply before).pointTo pointer

variable {before middle after : Slave} {first rest : List (UInt16 × UInt8)}

theorem foldl_apply_pointTo (writes : List (UInt16 × UInt8)) (slave : Slave) (pointer : UInt8) :
    writes.foldl apply (slave.pointTo pointer) = (writes.foldl apply slave).pointTo pointer := by
  induction writes generalizing slave with
  | nil => rfl
  | cons write rest induction => exact induction (slave.apply write)

theorem Wrote.pointTo (slave : Slave) (pointer : UInt8) : slave.Wrote [] (slave.pointTo pointer) :=
  ⟨pointer, rfl⟩

theorem Wrote.refl (slave : Slave) : slave.Wrote [] slave :=
  .pointTo slave slave.pointer

theorem Wrote.trans (one : before.Wrote first middle) (two : middle.Wrote rest after) :
    before.Wrote (first ++ rest) after := by
  rcases one with ⟨pointer, rfl⟩
  rcases two with ⟨last, rfl⟩
  refine ⟨last, ?_⟩
  rw [foldl_apply_pointTo, List.foldl_append]
  rfl

theorem Wrote.put (slave : Slave) (pointer value : UInt8) :
    slave.Wrote [((slave.pointTo pointer).current, value)] ((slave.pointTo pointer).put value) := by
  refine ⟨pointer + 1, ?_⟩
  simp [Slave.put, Slave.pointTo, apply, current, atPageRegister]

theorem foldl_apply_paged (writes : List (UInt16 × UInt8)) (slave : Slave) :
    (writes.foldl apply slave).paged = slave.paged := by
  induction writes generalizing slave with
  | nil => rfl
  | cons write rest induction => exact induction (slave.apply write)

theorem Wrote.paged (wrote : before.Wrote first after) : after.paged = before.paged := by
  rcases wrote with ⟨pointer, rfl⟩
  exact foldl_apply_paged first before

theorem foldl_apply_writes (writes : List (UInt16 × UInt8)) (slave : Slave) :
    (writes.foldl apply slave).writes.toList = slave.writes.toList ++ writes := by
  induction writes generalizing slave with
  | nil => exact (List.append_nil _).symm
  | cons write rest induction =>
      rw [List.foldl_cons, induction]
      simp [apply]

theorem Wrote.writes (wrote : before.Wrote first after) :
    after.writes.toList = before.writes.toList ++ first := by
  rcases wrote with ⟨pointer, rfl⟩
  exact foldl_apply_writes first before

/-! ## Registers -/

theorem get_apply {slave : Slave} {register : UInt16} (inside : register.toNat < slave.memory.size)
    (write : UInt16 × UInt8) :
    (slave.apply write).get register =
      if write.1 = register then write.2 else slave.get register := by
  have cell : register.toNat % slave.memory.size = register.toNat := Nat.mod_eq_of_lt inside
  have same : write.1.toNat = register.toNat ↔ write.1 = register := UInt16.toNat_inj
  simp only [get, cellOf, apply, Array.size_setIfInBounds, cell, Array.getElem?_setIfInBounds,
    same]
  split
  · rename_i equal
    rw [if_pos (equal ▸ inside)]
    rfl
  · rfl

theorem foldl_apply_size (writes : List (UInt16 × UInt8)) (slave : Slave) :
    (writes.foldl apply slave).memory.size = slave.memory.size := by
  induction writes generalizing slave with
  | nil => rfl
  | cons write rest induction =>
      rw [List.foldl_cons, induction]
      exact Array.size_setIfInBounds

theorem Wrote.shape (wrote : before.Wrote first after) : after.shape = before.shape := by
  rcases wrote with ⟨pointer, rfl⟩
  exact Prod.ext (foldl_apply_paged first before) (foldl_apply_size first before)

theorem Wrote.get_other {register : UInt16} (wrote : before.Wrote first after)
    (inside : register.toNat < before.memory.size)
    (others : ∀ write ∈ first, write.1 ≠ register) : after.get register = before.get register := by
  rcases wrote with ⟨pointer, rfl⟩
  change (first.foldl apply before).get register = before.get register
  induction first generalizing before with
  | nil => rfl
  | cons write rest induction =>
      have within : register.toNat < (before.apply write).memory.size := by
        simpa [apply] using inside
      rw [List.foldl_cons, induction within fun other member =>
        others other (List.mem_cons_of_mem _ member), get_apply inside,
        if_neg (others write List.mem_cons_self)]

theorem Wrote.get_last {register : UInt16} {value : UInt8}
    (wrote : before.Wrote (first ++ [(register, value)]) after)
    (inside : register.toNat < before.memory.size) : after.get register = value := by
  rcases wrote with ⟨pointer, rfl⟩
  change ((first ++ [(register, value)]).foldl apply before).get register = value
  have within : register.toNat < (first.foldl apply before).memory.size := by
    rwa [foldl_apply_size]
  rw [List.foldl_append, List.foldl_cons, List.foldl_nil, get_apply within, if_pos rfl]

end ClockBoard.Simulation.Slave

namespace ClockBoard.Simulation.Circuit

variable {before middle after : Circuit} {address : UInt8} {slave last : Slave}

/-- Whether of all slaves at most the one at an address has changed, and is now the given one. -/
def Turned (before : Circuit) (address : UInt8) (slave : Slave) (after : Circuit) : Prop :=
  ∀ other, after.slave? other = if address = other then some slave else before.slave? other

theorem Turned.slave? (turned : before.Turned address slave after) :
    after.slave? address = some slave := by
  rw [turned address, if_pos rfl]

theorem Turned.of_same (attached : before.slave? address = some slave)
    (same : ∀ other, after.slave? other = before.slave? other) :
    before.Turned address slave after := by
  intro other
  rw [same other]
  split
  · rename_i equal
    rw [← equal, attached]
  · rfl

theorem Turned.trans (one : before.Turned address slave middle)
    (two : middle.Turned address last after) : before.Turned address last after := by
  intro other
  rw [two other]
  split
  · rfl
  · rename_i different
    rw [one other, if_neg different]

theorem Turned.insert (slaves : after.slaves = before.slaves.insert address slave) :
    before.Turned address slave after := by
  intro other
  rw [Circuit.slave?, slaves]
  exact Table.get?_insert _ _ _ _

theorem Turned.conclude (command : Core.Command) (turned : before.Turned address slave after) :
    before.Turned address slave (after.conclude command) := by
  intro other
  rw [conclude_slave?]
  exact turned other

theorem Turned.calm (turned : before.Turned address slave after) :
    before.calm.Turned address slave.calm after.calm := by
  intro other
  rw [calm_slave?, turned other, calm_slave?]
  split <;> rfl

/-! ## Moves -/

theorem select_attached {circuit : Circuit} (attached : circuit.slave? (circuit.tx >>> 1) =
    some slave) :
    circuit.select =
      { circuit with
        held := true
        transfer := some ⟨circuit.tx >>> 1, circuit.tx &&& 1 == 1, false⟩
        status.rxNack := false } := by
  have present : circuit.slaves.contains (circuit.tx >>> 1) = true := by
    rw [Table.contains, ← slave?, attached]
    rfl
  simp [select, present]

theorem select_absent {circuit : Circuit} (absent : circuit.slave? (circuit.tx >>> 1) = none) :
    circuit.select =
      { circuit with held := true, transfer := none, status.rxNack := true } := by
  have missing : circuit.slaves.contains (circuit.tx >>> 1) = false := by
    rw [Table.contains, ← slave?, absent]
    rfl
  simp [select, missing]

theorem send_refused {circuit : Circuit} (opened : circuit.transfer = some ⟨address, false, true⟩)
    (attached : circuit.slave? address = some slave) (refuses : 0 < slave.refusals) :
    circuit.send =
      { circuit with
        slaves := circuit.slaves.insert address { slave with refusals := slave.refusals - 1 }
        transfer := some ⟨address, false, true⟩
        status.rxNack := true } := by
  have found : circuit.slaves.get? address = some slave := attached
  simp [send, opened, Table.visit_eq, found, Slave.store_eq, refuses]

theorem send_accepted {circuit : Circuit} {pointed : Bool}
    (opened : circuit.transfer = some ⟨address, false, pointed⟩)
    (attached : circuit.slave? address = some slave)
    (takes : pointed = true → slave.refusals = 0) :
    circuit.send =
      { circuit with
        slaves := circuit.slaves.insert address (slave.accept pointed circuit.tx)
        transfer := some ⟨address, false, true⟩
        status.rxNack := false } := by
  have found : circuit.slaves.get? address = some slave := attached
  cases pointed with
  | false => simp [send, opened, Table.visit_eq, found, Slave.accept]
  | true => simp [send, opened, Table.visit_eq, found, Slave.accept, Slave.store_eq, takes]

theorem receive_attached {circuit : Circuit} {pointed : Bool} (refused : Bool)
    (opened : circuit.transfer = some ⟨address, true, pointed⟩)
    (attached : circuit.slave? address = some slave) :
    circuit.receive refused =
      { circuit with
        slaves := circuit.slaves.insert address slave.load.2
        rx := slave.load.1
        status.rxNack := refused } := by
  have found : circuit.slaves.get? address = some slave := attached
  simp [receive, opened, Table.visit_eq, found]

end ClockBoard.Simulation.Circuit
