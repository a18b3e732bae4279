import ClockBoard.Proofs.Upload.Attempts

/-!
An upload goes through its assignments one after another, so an upload of two lists is an upload of
the first and then one of the second, by the writer that the first has left. An upload in sections
is one of all the assignments, with a pause behind the preamble.

The main statement is about any writer. It has the place of the pause, and what the calls and the
failures of the whole upload have to do with those of its sections.
-/

namespace ClockBoard.Upload

variable {σ ε : Type}

/-! ## Work after work -/

def Work.then (first second : Work σ ε) : Work σ ε where
  state := second.state
  calls := first.calls ++ second.calls
  events := first.events ++ second.events

def Call.pause? : Call ε → Option Nat
  | .write _ _ _ => none
  | .settle milliseconds => some milliseconds

namespace Writer

variable (writer : Writer σ ε) {α : Type}

theorem run_then (routine : Routine interface α) (before work : Work σ ε) :
    writer.run routine (before.then work) =
      ((writer.run routine work).1, before.then (writer.run routine work).2) := by
  induction routine generalizing work with
  | done value => rfl
  | ask request next induction =>
      have served : writer.serve request (before.then work) =
          ((writer.serve request work).1, before.then (writer.serve request work).2) := by
        cases request <;>
          simp [serve, Work.then, Work.calling, Work.noting, List.append_assoc]
      simp only [run, Routine.run, served] at induction ⊢
      exact induction _ _

theorem run_eq_then (routine : Routine interface α) (work : Work σ ε) :
    writer.run routine work =
      let ran := writer.run routine (.start work.state)
      (ran.1, work.then ran.2) := by
  have same : work = work.then (.start work.state) := by simp [Work.then, Work.start]
  exact (congrArg (writer.run routine) same).trans (writer.run_then routine work _)

theorem run_bind_then {β : Type} (routine : Routine interface α) (next : α → Routine interface β)
    (state : σ) :
    writer.run (routine.bind next) (.start state) =
      let first := writer.run routine (.start state)
      let second := writer.run (next first.1) (.start first.2.state)
      (second.1, first.2.then second.2) := by
  rw [run_bind]
  exact writer.run_eq_then _ _

end Writer

/-! ## Lists of assignments -/

theorem writeAll_append (policy : Policy) (first second : List Assignment) :
    writeAll policy (first ++ second) =
      (writeAll policy first).bind fun failures =>
        (writeAll policy second).bind fun others => .done (failures ++ others) := by
  induction first with
  | nil => exact (Routine.bind_done _).symm
  | cons assignment rest induction =>
      rw [List.cons_append, writeAll_cons, writeAll_cons, induction]
      simp only [Routine.bind_assoc, Routine.done_bind, List.append_assoc]

section

variable (writer : Writer σ ε) (policy : Policy)

def Writer.writes (assignments : List Assignment) (state : σ) : List Failure × Work σ ε :=
  writer.run (writeAll policy assignments) (.start state)

theorem Writer.writes_append {writer : Writer σ ε} {policy : Policy}
    {first second : List Assignment} {state : σ} {one two : List Failure × Work σ ε}
    (early : writer.writes policy first state = one)
    (late : writer.writes policy second one.2.state = two) :
    writer.writes policy (first ++ second) state = (one.1 ++ two.1, one.2.then two.2) := by
  rw [← late, ← early, writes, writeAll_append, run_bind_then]
  simp only [run_bind]
  rfl

/-! ## Uploads -/

theorem uploadPlain_writes (assignments : List Assignment) (state : σ) :
    let ran := writer.run (uploadPlain policy assignments) (.start state)
    let wrote := writer.writes policy assignments state
    reported ran.1 = wrote.1 ∧ ran.1 = conclude policy.mode wrote.1 ∧
      ran.2.state = wrote.2.state ∧ ran.2.calls = wrote.2.calls := by
  intro ran wrote
  have equal : ran = _ := run_uploadPlain writer policy assignments (.start state)
  rw [equal, writer.run_eq_then]
  exact ⟨reported_conclude _ _, rfl, rfl, List.nil_append _⟩

theorem uploadPlain_append (first second : List Assignment) (state : σ) :
    let both := writer.run (uploadPlain policy (first ++ second)) (.start state)
    let early := writer.run (uploadPlain policy first) (.start state)
    let late := writer.run (uploadPlain policy second) (.start early.2.state)
    both.2.state = late.2.state ∧ both.2.calls = early.2.calls ++ late.2.calls ∧
      reported both.1 = reported early.1 ++ reported late.1 := by
  intro both early late
  obtain ⟨failures, _, reached, calls⟩ := uploadPlain_writes writer policy (first ++ second) state
  obtain ⟨one, _, middle, earlyCalls⟩ := uploadPlain_writes writer policy first state
  obtain ⟨two, _, final, lateCalls⟩ := uploadPlain_writes writer policy second early.2.state
  rw [Writer.writes_append rfl (congrArg (writer.writes policy second) middle.symm)]
    at failures reached calls
  refine ⟨reached.trans final.symm, ?_, ?_⟩
  · rw [calls, earlyCalls, lateCalls]
    rfl
  · rw [failures, one, two]

theorem uploadPlain_calls (assignments : List Assignment) (state : σ) :
    let ran := writer.run (uploadPlain policy assignments) (.start state)
    (∃ tried : List (Assignment × Course ε), tried.map Prod.fst = assignments ∧
      (∀ pair ∈ tried, pair.2.Within (max policy.attempts 1)) ∧
      ran.2.calls = tried.flatMap fun pair => pair.2.calls pair.1) ∧
    ∀ call ∈ ran.2.calls, call.pause? = none := by
  intro ran
  obtain ⟨_, _, _, calls⟩ := uploadPlain_writes writer policy assignments state
  obtain ⟨tried, same, follows⟩ := writer.run_writeAll policy assignments (.start state)
  have attempts : ran.2.calls = tried.flatMap fun pair => pair.2.calls pair.1 :=
    calls.trans follows.calls
  refine ⟨⟨tried, same, follows.within, attempts⟩, ?_⟩
  intro call member
  rw [attempts] at member
  obtain ⟨pair, _, called⟩ := List.mem_flatMap.mp member
  obtain ⟨answer, _, same⟩ := List.mem_map.mp called
  rw [← same]
  rfl

theorem uploadSectioned_eq (listing : Listing.Sectioned) (state : σ) :
    let ran := writer.run (uploadSectioned policy listing) (.start state)
    let early := writer.run (uploadPlain policy listing.preamble) (.start state)
    let late := writer.run (uploadPlain policy (listing.registers ++ listing.postamble))
      (.start (writer.settle policy.settle early.2.state))
    ran.1 = conclude policy.mode (reported early.1 ++ reported late.1) ∧
      ran.2.state = late.2.state ∧
      ran.2.calls = early.2.calls ++ .settle policy.settle :: late.2.calls := by
  intro ran early late
  let noted : Work σ ε := (Work.start state).noting
    { level := .debug
      message := "Uploading sectioned registers"
      fields :=
        [ ("preamble", .number listing.preamble.length),
          ("registers", .number listing.registers.length),
          ("postamble", .number listing.postamble.length) ] }
  let first := writer.writes policy listing.preamble state
  have preamble : writer.run (writeAll policy listing.preamble) noted =
      (first.1, noted.then first.2) := writer.run_eq_then _ _
  let paused := (noted.then first.2).calling (.settle policy.settle)
    (writer.settle policy.settle first.2.state)
  let second := writer.writes policy listing.registers paused.state
  have registers : writer.run (writeAll policy listing.registers) paused =
      (second.1, paused.then second.2) := writer.run_eq_then _ _
  let third := writer.writes policy listing.postamble second.2.state
  have postamble : writer.run (writeAll policy listing.postamble) (paused.then second.2) =
      (third.1, (paused.then second.2).then third.2) := writer.run_eq_then _ _
  have ended : ran = writer.run
      (finish policy listing.length (first.1 ++ second.1 ++ third.1))
      ((paused.then second.2).then third.2) := by
    apply (writer.run_bind (writeAll policy listing.preamble) _ noted).trans
    rw [preamble]
    apply (writer.run_bind (writeAll policy listing.registers) _ paused).trans
    rw [registers]
    apply (writer.run_bind (writeAll policy listing.postamble) _ (paused.then second.2)).trans
    rw [postamble]
  obtain ⟨one, _, middle, earlyCalls⟩ := uploadPlain_writes writer policy listing.preamble state
  have isPaused : paused.state = writer.settle policy.settle early.2.state :=
    congrArg (writer.settle policy.settle) middle.symm
  obtain ⟨two, _, final, lateCalls⟩ := uploadPlain_writes writer policy
    (listing.registers ++ listing.postamble) paused.state
  rw [Writer.writes_append (rfl : _ = second) (rfl : _ = third), isPaused] at two final lateCalls
  rw [ended]
  refine ⟨?_, final.symm, ?_⟩
  · rw [one, two, List.append_assoc]
    rfl
  · rw [earlyCalls, lateCalls]
    change (([] ++ first.2.calls) ++ [.settle policy.settle] ++ second.2.calls) ++
      third.2.calls = _
    simp only [List.nil_append, List.append_assoc, List.singleton_append]
    rfl

/-- An upload in sections makes its attempts in the order of the sections, and pauses once, between
the last attempt at the preamble and the first one after it, whatever has failed. It reports the
failures of the sections, each uploaded by the writer that has gone through what comes before it. If
the pause changes nothing, it is an upload of all the assignments. An upload of two lists is one of
the first and then one of the second. -/
theorem uploadSectioned_order (listing : Listing.Sectioned) (state : σ) :
    let ran := writer.run (uploadSectioned policy listing) (.start state)
    let first := writer.run (uploadPlain policy listing.preamble) (.start state)
    let second := writer.run (uploadPlain policy listing.registers)
      (.start (writer.settle policy.settle first.2.state))
    let third := writer.run (uploadPlain policy listing.postamble) (.start second.2.state)
    let failures := reported first.1 ++ reported second.1 ++ reported third.1
    (∃ before after : List (Assignment × Course ε),
      before.map Prod.fst = listing.preamble ∧
      after.map Prod.fst = listing.registers ++ listing.postamble ∧
      (∀ pair ∈ before ++ after, pair.2.Within (max policy.attempts 1)) ∧
      ran.2.calls = (before.flatMap fun pair => pair.2.calls pair.1) ++
        .settle policy.settle :: after.flatMap fun pair => pair.2.calls pair.1) ∧
    ran.2.calls.filterMap Call.pause? = [policy.settle] ∧
    (ran.1 = conclude policy.mode failures ∧ reported ran.1 = failures ∧
      ran.2.state = third.2.state) ∧
    ((∀ state, writer.settle policy.settle state = state) →
      let plain := writer.run
        (uploadPlain policy (listing.preamble ++ listing.registers ++ listing.postamble))
        (.start state)
      (ran.2.calls.filter fun call => call.pause?.isNone) = plain.2.calls ∧
        ran.1 = plain.1 ∧ ran.2.state = plain.2.state) ∧
    ∀ one two : List Assignment,
      let both := writer.run (uploadPlain policy (one ++ two)) (.start state)
      let early := writer.run (uploadPlain policy one) (.start state)
      let late := writer.run (uploadPlain policy two) (.start early.2.state)
      both.2.state = late.2.state ∧ both.2.calls = early.2.calls ++ late.2.calls ∧
        reported both.1 = reported early.1 ++ reported late.1 := by
  intro ran first second third failures
  obtain ⟨result, reached, calls⟩ := uploadSectioned_eq writer policy listing state
  obtain ⟨final, _, others⟩ := uploadPlain_append writer policy listing.registers
    listing.postamble (writer.settle policy.settle first.2.state)
  obtain ⟨⟨before, same, within, early⟩, noPause⟩ :=
    uploadPlain_calls writer policy listing.preamble state
  obtain ⟨⟨after, sameLate, withinLate, late⟩, noPauseLate⟩ :=
    uploadPlain_calls writer policy (listing.registers ++ listing.postamble)
      (writer.settle policy.settle first.2.state)
  have concluded : ran.1 = conclude policy.mode failures := by
    apply result.trans
    rw [others, ← List.append_assoc]
  refine ⟨⟨before, after, same, sameLate, ?_, ?_⟩, ?_, ⟨concluded, ?_, ?_⟩, ?_, ?_⟩
  · intro pair member
    obtain first | later := List.mem_append.mp member
    · exact within pair first
    · exact withinLate pair later
  · rw [calls, early, late]
  · rw [calls, List.filterMap_append, List.filterMap_cons,
      List.filterMap_eq_nil_iff.mpr noPause, List.filterMap_eq_nil_iff.mpr noPauseLate]
    rfl
  · rw [concluded, reported_conclude]
  · exact reached.trans final
  · intro quiet plain
    have isPlain : plain = writer.run (uploadPlain policy
        (listing.preamble ++ (listing.registers ++ listing.postamble))) (.start state) := by
      rw [← List.append_assoc]
    obtain ⟨wholeState, wholeCalls, wholeFailures⟩ := uploadPlain_append writer policy
      listing.preamble (listing.registers ++ listing.postamble) state
    obtain ⟨wholeWrote, wholeResult, _⟩ := uploadPlain_writes writer policy
      (listing.preamble ++ (listing.registers ++ listing.postamble)) state
    rw [quiet] at result reached calls noPauseLate
    refine ⟨?_, ?_, ?_⟩
    · have kept := List.filter_eq_self.mpr fun call member =>
        Option.isNone_iff_eq_none.mpr (noPause call member)
      have keptLate := List.filter_eq_self.mpr fun call member =>
        Option.isNone_iff_eq_none.mpr (noPauseLate call member)
      rw [calls, isPlain, wholeCalls, List.filter_append, kept]
      exact congrArg (_ ++ ·) keptLate
    · rw [isPlain, wholeResult, ← wholeWrote, wholeFailures]
      exact result
    · rw [isPlain, wholeState]
      exact reached
  · exact fun one two => uploadPlain_append writer policy one two state

theorem uploadSectioned_order_counting :
    let writer : Writer Nat Unit :=
      { write := fun _ _ left => (if left = 0 then .ok () else .error (), left - 1)
        settle := fun _ left => left
        text := fun _ => "refused" }
    let listing : Listing.Sectioned :=
      { preamble := [⟨0x0B24, 0xC0⟩], registers := [⟨0x0001, 0x07⟩], postamble := [] }
    let ran := writer.run (uploadSectioned .bestEffort listing) (.start 3)
    let plain := writer.run (uploadPlain .bestEffort [⟨0x0B24, 0xC0⟩, ⟨0x0001, 0x07⟩]) (.start 3)
    (∀ state, writer.settle preambleSettle state = state) ∧
      ran.2.calls.filterMap Call.pause? = [300] ∧
      (ran.2.calls.filter fun call => call.pause?.isNone) = plain.2.calls ∧ ran.1 = plain.1 := by
  intro writer listing ran plain
  have quiet : ∀ state, writer.settle preambleSettle state = state := fun _ => rfl
  obtain ⟨_, pauses, _, same, _⟩ := uploadSectioned_order writer .bestEffort listing 3
  obtain ⟨calls, result, _⟩ := same quiet
  exact ⟨quiet, pauses, calls, result⟩

end

end ClockBoard.Upload
