import Mathlib.Data.List.Induction
import Mathlib.Logic.Function.Basic
import ClockBoard.Proofs.Simulation.Built
import ClockBoard.Proofs.Simulation.Storage

/-!
What holds of a circuit at any time after power-up, whatever has been done to it and whatever words
have been written to its registers: its flags say what its wires do, its transfer is with a slave
that is there, and its slaves never leave their memories.

The main statement adds that the memory of a slave is told by its log. A register holds what was
written to it last, or what it was preloaded with.
-/

namespace ClockBoard.Simulation

open ClockBoard.Core ClockBoard.Link

namespace Slave

/-- How a slave is made: with pages or without, and with registers preloaded in order. -/
structure Plan where
  paged : Bool
  preloaded : List (UInt16 × UInt8)

namespace Plan

def size (plan : Plan) : Nat :=
  if plan.paged then 0x10000 else 0x100

def slave (plan : Plan) : Slave :=
  plan.preloaded.foldl (fun slave cell => slave.preload cell.1 cell.2)
    (if plan.paged then pages else flat)

/-- The register that an address comes to. After the last register comes the first. -/
def wrap (plan : Plan) (register : UInt16) : UInt16 :=
  UInt16.ofNat (register.toNat % plan.size)

theorem size_pos (plan : Plan) : 0 < plan.size := by
  unfold size
  split <;> omega

theorem toNat_wrap (plan : Plan) (register : UInt16) :
    (plan.wrap register).toNat = register.toNat % plan.size := by
  have small := Nat.mod_le register.toNat plan.size
  have bound := register.toNat_lt
  rw [wrap, UInt16.toNat_ofNat']
  omega

theorem wrap_inside (plan : Plan) (register : UInt16) :
    (plan.wrap register).toNat < plan.size := by
  rw [toNat_wrap]
  exact Nat.mod_lt _ plan.size_pos

end Plan

def lastWrite? (writes : List (UInt16 × UInt8)) (register : UInt16) : Option UInt8 :=
  writes.reverse.lookup register

theorem lastWrite?_append_singleton (writes : List (UInt16 × UInt8)) (write : UInt16 × UInt8)
    (register : UInt16) :
    lastWrite? (writes ++ [write]) register =
      if write.1 = register then some write.2 else lastWrite? writes register := by
  obtain ⟨written, value⟩ := write
  by_cases same : written = register
  · subst same
    simp [lastWrite?]
  · have different : (register == written) = false := beq_false_of_ne (Ne.symm same)
    simp [lastWrite?, List.lookup_cons, different, same]

def Plan.value (plan : Plan) (register : UInt16) : UInt8 :=
  (lastWrite? (plan.preloaded.map fun cell => (plan.wrap cell.1, cell.2))
    (plan.wrap register)).getD 0

/-- Whether a slave is what its plan and its register writes have made of it. -/
structure Follows (slave : Slave) (plan : Plan) : Prop where
  paged : slave.paged = plan.paged
  size : slave.memory.size = plan.size
  /-- A register holds what was written to it last, or else what it was preloaded with. -/
  holds : ∀ register,
    slave.get register =
      (lastWrite? slave.writes.toList (plan.wrap register)).getD (plan.value register)

/-- Whether the register that the pointer is at has a cell in the memory. -/
def Inside (slave : Slave) : Prop :=
  slave.current.toNat < slave.memory.size

namespace Follows

variable {plan : Plan} {slave : Slave}

theorem inside (follows : slave.Follows plan) : slave.Inside := by
  unfold Inside
  rw [follows.size, Plan.size, ← follows.paged]
  cases paged : slave.paged with
  | true => exact slave.current.toNat_lt
  | false =>
      have bound := slave.pointer.toNat_lt
      simpa [current, paged, toNat_joinBytes] using bound

theorem of_same (follows : slave.Follows plan) {other : Slave}
    (paged : other.paged = slave.paged) (memory : other.memory = slave.memory)
    (writes : other.writes = slave.writes) : other.Follows plan where
  paged := paged.trans follows.paged
  size := by rw [memory, follows.size]
  holds register := by
    have same : other.get register = slave.get register := by simp only [get, cellOf, memory]
    rw [same, writes, follows.holds]

theorem get_set (follows : slave.Follows plan) {cell : UInt16} (inside : cell.toNat < plan.size)
    (value : UInt8) (register : UInt16) :
    { slave with memory := slave.memory.setIfInBounds cell.toNat value }.get register =
      if cell = plan.wrap register then value else slave.get register := by
  have same : cell.toNat = register.toNat % plan.size ↔ cell = plan.wrap register := by
    rw [← Plan.toNat_wrap, UInt16.toNat_inj]
  simp only [get, cellOf, Array.size_setIfInBounds, follows.size, Array.getElem?_setIfInBounds,
    same, inside, if_true]
  split <;> rfl

/-! ## Making -/

theorem blank (paged : Bool) :
    (if paged then pages else flat).Follows { paged, preloaded := [] } := by
  cases paged with
  | true => exact ⟨rfl, Array.size_replicate, get_zeroed true _⟩
  | false => exact ⟨rfl, Array.size_replicate, get_zeroed false _⟩

theorem preload (follows : slave.Follows plan) (fresh : slave.writes = #[]) (register : UInt16)
    (value : UInt8) :
    (slave.preload register value).Follows
      { plan with preloaded := plan.preloaded ++ [(register, value)] } where
  paged := follows.paged
  size := Array.size_setIfInBounds.trans follows.size
  holds other := by
    have cell : slave.cellOf register = (plan.wrap register).toNat := by
      rw [cellOf, follows.size, Plan.toNat_wrap]
    have set : (slave.preload register value).get other = _ :=
      cell ▸ follows.get_set (plan.wrap_inside register) value other
    have held : slave.get other = plan.value other := by
      rw [follows.holds, fresh]
      rfl
    have same (any : UInt16) :
        ({ plan with preloaded := plan.preloaded ++ [(register, value)] } : Plan).wrap any =
          plan.wrap any := rfl
    have unwritten : (slave.preload register value).writes.toList = [] := by
      rw [← Array.toList_empty, ← fresh]
      rfl
    rw [set, held, unwritten]
    simp only [Plan.value, same, List.map_append, List.map_cons, List.map_nil,
      lastWrite?_append_singleton]
    split <;> rfl

theorem make (plan : Plan) : plan.slave.Follows plan := by
  have made (preloaded : List (UInt16 × UInt8)) :
      (Plan.slave { plan with preloaded }).Follows { plan with preloaded } ∧
        (Plan.slave { plan with preloaded }).writes = #[] := by
    induction preloaded using List.reverseRecOn with
    | nil =>
        refine ⟨blank plan.paged, ?_⟩
        cases paged : plan.paged <;> rfl
    | append_singleton preloaded cell induction =>
        have last : Plan.slave { plan with preloaded := preloaded ++ [cell] } =
            (Plan.slave { plan with preloaded }).preload cell.1 cell.2 := by
          simp only [Plan.slave, List.foldl_append, List.foldl_cons, List.foldl_nil]
        rw [last]
        exact ⟨induction.1.preload induction.2 cell.1 cell.2, induction.2⟩
  exact (made plan.preloaded).1

/-! ## Accesses -/

theorem store (follows : slave.Follows plan) (value : UInt8) :
    (slave.store value).2.Follows plan := by
  rw [store_eq]
  split
  · exact follows.of_same rfl rfl rfl
  · refine ⟨follows.paged, Array.size_setIfInBounds.trans follows.size, fun register => ?_⟩
    have inside : slave.current.toNat < plan.size := follows.size ▸ follows.inside
    have set := follows.get_set inside value register
    have logged : (slave.put value).writes.toList =
        slave.writes.toList ++ [(slave.current, value)] := Array.toList_push
    have held : (slave.put value).get register = _ := set
    rw [held, logged, lastWrite?_append_singleton, follows.holds]
    split <;> rfl

theorem accept (follows : slave.Follows plan) (pointed : Bool) (byte : UInt8) :
    (if pointed then slave.store byte else (true, slave.pointTo byte)).2.Follows plan := by
  cases pointed with
  | true => exact follows.store byte
  | false => exact follows.of_same rfl rfl rfl

theorem load (follows : slave.Follows plan) : slave.load.2.Follows plan :=
  follows.of_same rfl rfl rfl

end Follows

end Slave

namespace Circuit

variable {circuit : Circuit} {plans : UInt8 → Option Slave.Plan}

/-! ## Slaves -/

/-- Whether the slaves of a circuit are those of the plans, each with its log. -/
def Houses (circuit : Circuit) (plans : UInt8 → Option Slave.Plan) : Prop :=
  ∀ address, Option.Rel Slave.Follows (circuit.slave? address) (plans address)

theorem Houses.insert (houses : circuit.Houses plans) (address : UInt8) {slave : Slave}
    {plan : Slave.Plan} (follows : slave.Follows plan) :
    { circuit with slaves := circuit.slaves.insert address slave }.Houses
      (Function.update plans address (some plan)) := by
  intro other
  rw [slave?, Table.get?_insert, Function.update_apply]
  by_cases same : address = other
  · rw [if_pos same, if_pos same.symm]
    exact .some follows
  · rw [if_neg same, if_neg (Ne.symm same)]
    exact houses other

theorem Houses.visit {β : Type} (houses : circuit.Houses plans) (address : UInt8)
    {action : Slave → β × Slave}
    (keeps : ∀ slave plan, slave.Follows plan → (action slave).2.Follows plan) :
    { circuit with slaves := (circuit.slaves.visit address action).2 }.Houses plans := by
  rw [Table.visit_eq]
  cases found : circuit.slaves.get? address with
  | none => exact houses
  | some slave =>
      have related := houses address
      rw [slave?, found] at related
      cases planned : plans address with
      | none =>
          rw [planned] at related
          cases related
      | some plan =>
          rw [planned] at related
          cases related with
          | some follows =>
              have inserted := houses.insert address (keeps slave plan follows)
              rwa [← planned, Function.update_eq_self] at inserted

theorem Houses.move (houses : circuit.Houses plans) (command : Command) :
    (circuit.move command).Houses plans := by
  unfold Circuit.move
  split
  · split
    · exact houses
    · unfold send
      split
      · rename_i address pointed opened
        exact houses.visit address fun slave plan follows => follows.accept pointed circuit.tx
      · exact houses
  · split
    · unfold receive
      split
      · rename_i address pointed opened
        exact houses.visit address fun slave plan follows => follows.load
      · exact houses
    · exact houses

theorem Houses.execute (houses : circuit.Houses plans) (command : Command) :
    (circuit.execute command).Houses plans := by
  apply execute_induction (Houses · plans) circuit command
  · exact houses
  · exact houses
  · exact houses
  · have won : (circuit.winning command).Houses plans := houses
    intro address
    rw [conclude_slave?]
    exact won.move command address

/-! ## Wires -/

/-- Whether a transfer is open only while the bus is held, and only with a slave that is there. The
flags that no command sets are part of this. -/
structure Bound (circuit : Circuit) : Prop where
  held : ∀ transfer, circuit.transfer = some transfer → circuit.held = true
  attached : ∀ transfer, circuit.transfer = some transfer →
    (circuit.slave? transfer.address).isSome = true
  progress : circuit.status.transferInProgress = false
  interrupt : circuit.status.interrupt = false

/-- Whether, on top of this, the status tells whether the bus is held. -/
structure Coherent (circuit : Circuit) : Prop extends circuit.Bound where
  busy : circuit.status.busy = circuit.held

theorem isSome_slave?_visit {β : Type} (circuit : Circuit) (address other : UInt8)
    (action : Slave → β × Slave) :
    ((circuit.slaves.visit address action).2.get? other).isSome =
      (circuit.slave? other).isSome := by
  rw [Table.visit_eq, slave?]
  cases found : circuit.slaves.get? address with
  | none => rfl
  | some slave =>
      rw [Table.get?_insert]
      split
      · rename_i same
        rw [← same, found]
        rfl
      · rfl

namespace Bound

theorem select (bound : circuit.Bound) : circuit.select.Bound where
  held _ _ := rfl
  attached transfer opened := by
    simp only [Circuit.select] at opened
    split at opened
    · rename_i present
      cases opened
      exact present
    · cases opened
  progress := bound.progress
  interrupt := bound.interrupt

theorem send (bound : circuit.Bound) : circuit.send.Bound := by
  unfold Circuit.send
  split
  · rename_i address pointed opened
    constructor
    · intro transfer same
      exact bound.held _ opened
    · intro transfer same
      cases same
      exact (isSome_slave?_visit circuit address address _).trans (bound.attached _ opened)
    · exact bound.progress
    · exact bound.interrupt
  · exact ⟨bound.held, bound.attached, bound.progress, bound.interrupt⟩

theorem receive (bound : circuit.Bound) (refused : Bool) : (circuit.receive refused).Bound := by
  unfold Circuit.receive
  split
  · rename_i address pointed opened
    constructor
    · exact bound.held
    · intro transfer same
      exact (isSome_slave?_visit circuit address _ _).trans (bound.attached _ same)
    · exact bound.progress
    · exact bound.interrupt
  · exact ⟨bound.held, bound.attached, bound.progress, bound.interrupt⟩

theorem move (bound : circuit.Bound) (command : Command) : (circuit.move command).Bound := by
  unfold Circuit.move
  split
  · split
    · exact bound.select
    · exact bound.send
  · split
    · exact bound.receive command.ack
    · exact bound

theorem conclude (bound : circuit.Bound) (command : Command) :
    (circuit.conclude command).Coherent := by
  unfold Circuit.conclude
  split
  · exact ⟨⟨nofun, nofun, bound.progress, bound.interrupt⟩, rfl⟩
  · exact ⟨⟨bound.held, bound.attached, bound.progress, bound.interrupt⟩, rfl⟩

end Bound

namespace Coherent

theorem execute (coherent : circuit.Coherent) (command : Command) :
    (circuit.execute command).Coherent := by
  obtain ⟨bound, busy⟩ := coherent
  apply execute_induction Coherent circuit command
  · exact ⟨bound, busy⟩
  · exact ⟨⟨bound.held, bound.attached, bound.progress, bound.interrupt⟩, busy⟩
  · exact ⟨⟨nofun, nofun, bound.progress, bound.interrupt⟩, rfl⟩
  · have won : (circuit.winning command).Bound :=
      ⟨bound.held, bound.attached, bound.progress, bound.interrupt⟩
    exact (won.move command).conclude command

end Coherent

/-! ## What may happen -/

inductive Happening
  | attach (address : UInt8) (plan : Slave.Plan)
  | refuseWrites (address : UInt8) (count : Nat)
  | stall (polls : Nat)
  | loseArbitration (commands : Nat)
  | carry (batch : Batch)

def after (circuit : Circuit) : Happening → Circuit
  | .attach address plan => circuit.attach address plan.slave
  | .refuseWrites address count => (circuit.refuseWrites address count).2
  | .stall polls => circuit.stall polls
  | .loseArbitration commands => circuit.loseArbitration commands
  | .carry batch => (circuit.carry batch).2

def afterAll (circuit : Circuit) (history : List Happening) : Circuit :=
  history.foldl after circuit

def Happening.plan? (address : UInt8) : Happening → Option Slave.Plan
  | .attach attached plan => if attached = address then some plan else none
  | _ => none

def attached? (history : List Happening) (address : UInt8) : Option Slave.Plan :=
  (history.filterMap (Happening.plan? address)).getLast?

theorem attached?_append_singleton (history : List Happening) (happening : Happening)
    (address : UInt8) :
    attached? (history ++ [happening]) address =
      (happening.plan? address).or (attached? history address) := by
  rw [attached?, List.filterMap_append, List.getLast?_append]
  cases planned : happening.plan? address with
  | none => simp [planned, attached?]
  | some plan => simp [planned]

/-- Whether a circuit is coherent and its slaves are those of the plans. -/
structure Sane (circuit : Circuit) (plans : UInt8 → Option Slave.Plan) : Prop where
  coherent : circuit.Coherent
  houses : circuit.Houses plans

namespace Sane

theorem of_same (sane : circuit.Sane plans) {other : Circuit}
    (slaves : other.slaves = circuit.slaves) (held : other.held = circuit.held)
    (transfer : other.transfer = circuit.transfer) (status : other.status = circuit.status) :
    other.Sane plans := by
  obtain ⟨⟨bound, busy⟩, houses⟩ := sane
  have same (address : UInt8) : other.slave? address = circuit.slave? address := by
    rw [slave?, slave?, slaves]
  constructor
  · constructor
    · constructor
      · simpa only [transfer, held] using bound.held
      · simpa only [transfer, same] using bound.attached
      · simpa only [status] using bound.progress
      · simpa only [status] using bound.interrupt
    · rw [status, held, busy]
  · intro address
    rw [same]
    exact houses address

theorem write (sane : circuit.Sane plans) (value : UInt32) (register : Register) :
    (circuit.write value register).Sane plans := by
  cases register with
  | command => exact ⟨sane.coherent.execute _, sane.houses.execute _⟩
  | _ => exact sane.of_same rfl rfl rfl rfl

theorem read (sane : circuit.Sane plans) (register : Register) :
    (circuit.read register).2.Sane plans := by
  cases register with
  | command =>
      change circuit.readStatus.2.Sane plans
      unfold readStatus
      split
      · exact sane.of_same rfl rfl rfl rfl
      · exact sane
  | _ => exact sane

theorem perform (sane : circuit.Sane plans) (operations : List Operation) :
    (Circuit.perform operations circuit).2.Sane plans := by
  apply perform_keeps (Sane · plans)
  · intro circuit value register sane
    exact sane.write value register
  · intro circuit register sane
    exact sane.read register
  · exact sane

theorem carry (sane : circuit.Sane plans) (batch : Batch) : (circuit.carry batch).2.Sane plans := by
  unfold Circuit.carry
  split
  · exact sane
  · exact sane.perform batch.operations

/-- A slave may be attached at any time, also in the place of one that has a transfer open. -/
theorem attach (sane : circuit.Sane plans) (address : UInt8) (plan : Slave.Plan) :
    (circuit.attach address plan.slave).Sane (Function.update plans address (some plan)) := by
  obtain ⟨⟨bound, busy⟩, houses⟩ := sane
  constructor
  · refine ⟨⟨bound.held, ?_, bound.progress, bound.interrupt⟩, busy⟩
    intro transfer opened
    have attached := bound.attached transfer opened
    rw [Circuit.attach, slave?, Table.get?_insert]
    split
    · rfl
    · exact attached
  · exact houses.insert _ (.make plan)

theorem refuseWrites (sane : circuit.Sane plans) (address : UInt8) (count : Nat) :
    (circuit.refuseWrites address count).2.Sane plans := by
  obtain ⟨⟨bound, busy⟩, houses⟩ := sane
  constructor
  · refine ⟨⟨bound.held, ?_, bound.progress, bound.interrupt⟩, busy⟩
    intro transfer opened
    exact (isSome_slave?_visit circuit address _ _).trans (bound.attached transfer opened)
  · exact houses.visit address fun slave plan follows => follows.of_same rfl rfl rfl

theorem after {history : List Happening} (sane : circuit.Sane (attached? history))
    (happening : Happening) :
    (circuit.after happening).Sane (attached? (history ++ [happening])) := by
  have plans : attached? (history ++ [happening]) =
      fun address => (happening.plan? address).or (attached? history address) :=
    funext (attached?_append_singleton history happening)
  rw [plans]
  cases happening with
  | attach address plan =>
      have same : (fun other => ((Happening.attach address plan).plan? other).or
          (attached? history other)) =
          Function.update (attached? history) address (some plan) := by
        funext other
        rw [Function.update_apply, Happening.plan?]
        by_cases equal : address = other
        · rw [if_pos equal, if_pos equal.symm, Option.some_or]
        · rw [if_neg equal, if_neg (Ne.symm equal), Option.none_or]
      rw [same]
      exact sane.attach address plan
  | refuseWrites address count => exact sane.refuseWrites address count
  | stall polls => exact sane.of_same rfl rfl rfl rfl
  | loseArbitration commands => exact sane.of_same rfl rfl rfl rfl
  | carry batch => exact sane.carry batch

theorem afterAll (node : String) (history : List Happening) :
    ((ofNode node).afterAll history).Sane (attached? history) := by
  induction history using List.reverseRecOn with
  | nil => exact ⟨⟨⟨nofun, nofun, rfl, rfl⟩, rfl⟩, fun _ => .none⟩
  | append_singleton history happening induction =>
      rw [Circuit.afterAll, List.foldl_append]
      exact induction.after happening

end Sane

/-- At any time, also between two accesses of a batch, a circuit is coherent; each address has the
slave that was attached to it last; no slave leaves its memory, which is of the size for its kind;
and each of its registers holds what was written to it last, or what it was preloaded with. -/
theorem afterAll_coherent (node : String) (history : List Happening)
    (operations : List Operation) :
    let circuit := (perform operations ((ofNode node).afterAll history)).2
    circuit.Coherent ∧
    ∀ address,
      Option.Rel
        (fun slave plan =>
          slave.paged = plan.paged ∧
          slave.memory.size = (if slave.paged then 65536 else 256) ∧ slave.Inside ∧
          ∀ register,
            slave.get register =
              (Slave.lastWrite? slave.writes.toList (plan.wrap register)).getD
                (plan.value register))
        (circuit.slave? address) (attached? history address) := by
  intro circuit
  have sane : circuit.Sane (attached? history) := (Sane.afterAll node history).perform operations
  refine ⟨sane.coherent, fun address => ?_⟩
  have related := sane.houses address
  generalize circuit.slave? address = slave?, attached? history address = plan? at related ⊢
  cases related with
  | none => exact .none
  | some follows =>
      have size := follows.size
      rw [Slave.Plan.size, ← follows.paged] at size
      exact .some ⟨follows.paged, size, follows.inside, follows.holds⟩

end Circuit

end ClockBoard.Simulation
