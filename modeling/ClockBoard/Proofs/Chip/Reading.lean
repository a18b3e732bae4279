import ClockBoard.Proofs.Chip.Retries

/-!
What reading registers of a paged chip gives when nothing goes wrong. A run of registers is read in
pieces that do not go over the end of a page, so the pointer of the slave never comes round within a
piece, and the pieces make up the run.

The main statement says that the bytes are those of the register space of 16 bits, in which the
register that selects the page shows the page that it is on.
-/

namespace ClockBoard.Chip

/-! ## Pieces -/

def span (address : UInt16) (count : Nat) : List UInt16 :=
  (List.range count).map fun index => address + UInt16.ofNat index

theorem span_add (address : UInt16) (first rest : Nat) :
    span address (first + rest) =
      span address first ++ span (address + UInt16.ofNat first) rest := by
  rw [span, List.range_add, List.map_append, List.map_map]
  apply congrArg (span address first ++ ·)
  apply List.map_congr_left
  intro index _
  rw [Function.comp, UInt16.ofNat_add, UInt16.add_assoc]

theorem flatMap_pieces (address : UInt16) (count : Nat) :
    ((pieces address count).flatMap fun piece => span piece.address piece.count) =
      span address count := by
  induction address, count using pieces.induct with
  | case1 address => simp [pieces, span]
  | case2 address count more onPage induction =>
      have whole : onPage + (count - onPage) = count := by omega
      rw [pieces, if_neg more, List.flatMap_cons, induction, ← span_add, whole]

theorem pieces_fit (address : UInt16) (count : Nat) :
    ∀ piece ∈ pieces address count, (lowByte piece.address).toNat + piece.count ≤ 0x100 := by
  induction address, count using pieces.induct with
  | case1 address => simp [pieces]
  | case2 address count more onPage induction =>
      intro piece member
      rw [pieces, if_neg more, List.mem_cons] at member
      rcases member with rfl | member
      · have bound := (lowByte address).toNat_lt
        simp only
        omega
      · exact induction piece member

theorem joinBytes_add {address : UInt16} {index : Nat}
    (within : (lowByte address).toNat + index < 0x100) :
    joinBytes (highByte address) (lowByte address + UInt8.ofNat index) =
      address + UInt16.ofNat index := by
  rw [toNat_lowByte] at within
  apply UInt16.toNat_inj.mp
  rw [toNat_joinBytes, UInt8.toNat_add, UInt16.toNat_add, toNat_highByte, toNat_lowByte,
    UInt8.toNat_ofNat', UInt16.toNat_ofNat']
  have bound := address.toNat_lt
  omega

end ClockBoard.Chip

namespace ClockBoard.Chip.Si534x

open ClockBoard.Bus ClockBoard.Link ClockBoard.Simulation

variable {bus : Bus} {chip : Si534x} {before after : Circuit} {slave : Slave} {toll : Toll}

/-! ## What a slave shows -/

/-- What a chip shows in a register: its content, or the page in the register that selects it. -/
def shows (slave : Slave) (register : UInt16) : UInt8 :=
  if lowByte register = pageRegister then highByte register else slave.get register

theorem load_shows (build : slave.shape = (true, 0x10000)) :
    slave.load.1 = shows slave slave.current := by
  have paged : slave.paged = true := congrArg Prod.fst build
  have size : slave.memory.size = 0x10000 := congrArg Prod.snd build
  have current : slave.current = joinBytes slave.page slave.pointer := by
    rw [Slave.current, if_pos paged]
  have same : pageRegister = Simulation.pageRegister := rfl
  have inside : slave.current.toNat % 0x10000 = slave.current.toNat :=
    Nat.mod_eq_of_lt slave.current.toNat_lt
  rw [shows, Slave.get, Slave.cellOf, size, inside, Slave.load, Slave.atPageRegister, current,
    lowByte_joinBytes, highByte_joinBytes, same]
  simp [paged]

theorem loadAll_shows {piece : Piece} (build : slave.shape = (true, 0x10000))
    (placed : slave.page = highByte piece.address)
    (fits : (lowByte piece.address).toNat + piece.count ≤ 0x100) :
    ((slave.pointTo (lowByte piece.address)).loadAll piece.count).1 =
      (span piece.address piece.count).map (shows slave) := by
  rw [Slave.loadAll_eq, span, List.map_map]
  apply List.map_congr_left
  intro index member
  have within := List.mem_range.mp member
  have moved : (slave.pointTo (lowByte piece.address + UInt8.ofNat index)).shape =
      (true, 0x10000) := build
  have target : (slave.pointTo (lowByte piece.address + UInt8.ofNat index)).current =
      piece.address + UInt16.ofNat index := by
    have paged : (slave.pointTo (lowByte piece.address + UInt8.ofNat index)).paged = true :=
      congrArg Prod.fst moved
    rw [← joinBytes_add (by omega), ← placed, Slave.current, if_pos paged]
    rfl
  have loaded := load_shows moved
  rw [target] at loaded
  exact loaded

/-- Whether a slave has kept its build and all registers but those that select the page. -/
structure Untouched (slave held : Slave) : Prop where
  shape : held.shape = slave.shape
  get : ∀ register, lowByte register ≠ pageRegister → held.get register = slave.get register

theorem Untouched.refl (slave : Slave) : Untouched slave slave :=
  ⟨rfl, fun _ _ => rfl⟩

theorem Untouched.trans {middle held : Slave} (one : Untouched slave middle)
    (two : Untouched middle held) : Untouched slave held where
  shape := two.shape.trans one.shape
  get register counts := (two.get register counts).trans (one.get register counts)

theorem Untouched.shows {held : Slave} (untouched : Untouched slave held) :
    shows held = shows slave := by
  funext register
  unfold Si534x.shows
  split
  · rfl
  · rename_i counts
    exact untouched.get register counts

theorem untouched_of_turningTo {held : Slave} {page : UInt8}
    (build : slave.shape = (true, 0x10000))
    (wrote : slave.Wrote (turningTo page slave.page) held) : Untouched slave held := by
  refine ⟨wrote.shape, ?_⟩
  intro register counts
  have size : slave.memory.size = 0x10000 := congrArg Prod.snd build
  apply wrote.get_other (size ▸ register.toNat_lt)
  rintro write member rfl
  exact counts (lowByte_of_mem_turningTo member)

/-! ## Reading -/

theorem possible_readPiece {piece : Piece} {result : Except Error (List UInt8)}
    (fits : (lowByte piece.address).toNat + piece.count ≤ 0x100) (node : before.node = bus.node)
    (usable : bus.Usable before) (progress : before.status.transferInProgress = false)
    (attached : before.slave? chip.handle.address = some slave)
    (build : slave.shape = (true, 0x10000))
    (faultless : ¬toll.Blames bus.config.pollAttempts chip.handle.address)
    (possible : (chip.readPiece piece).run.Possible (Handle.Served bus) before result after toll) :
    result = .ok ((span piece.address piece.count).map (shows slave)) ∧ bus.Usable after ∧
      ∃ held, before.Turned chip.handle.address held after ∧ Untouched slave held := by
  have paged : slave.paged = true := congrArg Prod.fst build
  rcases (possible_lift _ _).mp possible with ⟨answer, held, rfl⟩
  rcases runs_onPage_cases node paged attached held with
    ⟨error, rfl, _, _, _, _, _, blames⟩ |
    ⟨middle, first, rest, rfl, lasting, ⟨_, reached, _, turned, wrote, rfl, _, on⟩, working⟩
  · exact absurd (blames usable progress) faultless
  · have untouched := untouched_of_turningTo build wrote
    have placed := page_of_turningTo paged wrote
    have reading := runs_readArray (lasting.node.trans node) chip.handle.inRange turned.slave?
      working
    rcases reading with ⟨⟨pointer, moved⟩, ends⟩
    cases answer with
    | error error =>
        have blames := ends (.inl on) (lasting.progress.trans progress)
        exact absurd (blames.add_left first) faultless
    | ok bytes =>
        rcases ends with ⟨_, stays, rfl, _⟩
        rw [loadAll_shows (untouched.shape.trans build) placed fits, untouched.shows]
        exact ⟨rfl, .inl stays, _, turned.trans moved, untouched.shape, untouched.get⟩

theorem possible_readPieces {run : List Piece} {result : Except Error (List (List UInt8))}
    (fit : ∀ piece ∈ run, (lowByte piece.address).toNat + piece.count ≤ 0x100)
    (node : before.node = bus.node) (usable : bus.Usable before)
    (progress : before.status.transferInProgress = false)
    (attached : before.slave? chip.handle.address = some slave)
    (build : slave.shape = (true, 0x10000))
    (faultless : ¬toll.Blames bus.config.pollAttempts chip.handle.address)
    (possible : (run.mapM chip.readPiece).run.Possible (Handle.Served bus) before result after
      toll) :
    result = .ok (run.map fun piece => (span piece.address piece.count).map (shows slave)) ∧
      ∃ held, before.Turned chip.handle.address held after ∧ Untouched slave held := by
  induction run generalizing before slave toll result with
  | nil =>
      rcases possible with ⟨rfl, rfl, rfl⟩
      exact ⟨rfl, slave, .of_same attached fun _ => rfl, .refl slave⟩
  | cons piece rest induction =>
      rw [List.mapM_cons] at possible
      have fits := fit piece List.mem_cons_self
      rcases (Routine.possible_bind_run _ _ _).mp possible with
        ⟨error, rfl, read⟩ | ⟨bytes, middle, first, others, read, continued, rfl⟩
      · rcases possible_readPiece fits node usable progress attached build faultless read with
          ⟨failed, _⟩
        cases failed
      · rcases possible_readPiece fits node usable progress attached build
            (fun blames => faultless (blames.add_right others)) read with
          ⟨same, stays, reached, turned, untouched⟩
        cases same
        have lasting := Handle.served_lasting read
        rcases (Routine.possible_bind_pure_run _ _ _).mp continued with ⟨answer, remaining, rfl⟩
        rcases induction (fun other member => fit other (List.mem_cons_of_mem _ member))
            (lasting.node.trans node) stays (lasting.progress.trans progress) turned.slave?
            (untouched.shape.trans build) (fun blames => faultless (blames.add_left first))
            remaining with
          ⟨rfl, held, becomes, kept⟩
        -- The chip may be on another page by now, but it shows the same.
        rw [untouched.shows]
        exact ⟨rfl, held, turned.trans becomes, untouched.trans kept⟩

/-- Reading any run of registers gives what the chip shows in them, over the ends of pages and of
the register space, and changes none but those that select the page. -/
theorem readRegisters_shows (bus : Bus) (chip : Si534x) (board : Board Circuit) (slave : Slave)
    (address : UInt16) (count : Nat) (free : board.access = .free)
    (node : board.transport.node = bus.node) (built : board.transport.Built)
    (usable : bus.Usable board.transport)
    (attached : board.transport.slave? chip.handle.address = some slave)
    (paged : slave.paged = true) (polls : 1 ≤ bus.config.pollAttempts)
    (stalls : board.transport.stalls = 0) (losses : board.transport.losses = 0)
    (refusals : slave.refusals = 0) :
    let ran := board.run ((chip.readRegisters address count).run.carryOut (Handle.carry bus false))
    ran.1 = .ok ((List.range count).map fun index =>
      shows slave (address + UInt16.ofNat index)) ∧
    ∃ held, ran.2.transport.slave? chip.handle.address = some held ∧
      ∀ register, lowByte register ≠ pageRegister → held.get register = slave.get register := by
  intro ran
  have build := (built.sound attached).paged_shape paged
  have calmed := Circuit.calm_attached attached
  have patient := (Circuit.refusalsAt_attached attached).trans refusals
  rcases Handle.run_possible Circuit.hosting bus (chip.readRegisters address count).run board free
    with ⟨toll, possible, settles⟩
  have faultless := settles.faultless polls stalls losses patient
  rcases (Routine.possible_bind_pure_run _ _ _).mp possible with ⟨answer, reading, result⟩
  have calmNode : board.transport.calm.node = bus.node := node
  rcases possible_readPieces (pieces_fit address count) calmNode usable built.progress calmed build
      faultless reading with ⟨rfl, calmHeld, turned, untouched⟩
  rcases Circuit.slave?_of_calm turned.slave? with ⟨held, found, rfl⟩
  refine ⟨?_, held, found, untouched.get⟩
  calc ran.1
    _ = .ok ((pieces address count).map fun piece =>
          (span piece.address piece.count).map (shows slave)).flatten := result
    _ = .ok (((pieces address count).flatMap fun piece =>
          span piece.address piece.count).map (shows slave)) := by
        rw [List.map_flatMap, List.flatMap_def]
    _ = _ := by
        rw [flatMap_pieces, span, List.map_map]
        rfl

theorem readRegisters_shows_next_page :
    let bus : Bus := { node := "i2c", config := {}, slaves := .empty }
    let chip : Si534x := { handle := { address := 0x68 } }
    let slave := (Slave.pages.preload 0x00FF 0xAA).preload 0x0100 0xBB
    let board := Board.ofTransport ((Circuit.ofNode "i2c").attach 0x68 slave)
    (board.run ((chip.readRegisters 0x00FF 4).run.carryOut (Handle.carry bus false))).1 =
      .ok [0xAA, 0xBB, 0x01, 0x00] := by
  intro bus chip slave board
  have pages : Slave.pages.shape = (true, 0x10000) := Prod.ext rfl Array.size_replicate
  have first : (Slave.pages.preload 0x00FF 0xAA).shape = (true, 0x10000) :=
    (Slave.preload_shape _ _ _).trans pages
  have build : slave.shape = (true, 0x10000) := (Slave.preload_shape _ _ _).trans first
  have built : board.transport.Built :=
    .attach (.ofNode "i2c") 0x68 slave (.inl (build.trans pages.symm))
  have usable : bus.Usable board.transport := .inr (by decide)
  have attached : board.transport.slave? chip.handle.address = some slave :=
    (Table.get?_insert _ _ _ _).trans (if_pos rfl)
  have shown : (List.range 4).map (fun index => shows slave (0x00FF + UInt16.ofNat index)) =
      [slave.get 0x00FF, slave.get 0x0100, 0x01, slave.get 0x0102] := by
    simp [List.range_succ, shows, pageRegister, lowByte, highByte]
  have contents : [slave.get 0x00FF, slave.get 0x0100, 0x01, slave.get 0x0102] =
      [0xAA, 0xBB, 0x01, 0x00] := by
    simp [slave, Slave.get_preload first, Slave.get_preload pages, Slave.get_pages]
  have result := (readRegisters_shows bus chip board slave 0x00FF 4 rfl rfl built usable attached
    rfl (by decide) rfl rfl rfl).1
  exact result.trans (congrArg Except.ok (shown.trans contents))

end ClockBoard.Chip.Si534x
