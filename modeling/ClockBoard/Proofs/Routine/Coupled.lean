import ClockBoard.Routine

/-!
Two routines that run side by side, each against a world of its own. A coupling relates the worlds
in which they start to the results and the worlds in which they end, so a property of two runs is
proved along the structure of the routines, like a property of one run.
-/

namespace ClockBoard.Routine

universe u v w

variable {interface : Interface.{u}} {World : Type w} {α β γ δ ε : Type}

/-- Whether two routines that start in related worlds end with related results in related
worlds. -/
def Coupled (serve : (request : interface.Request) → World → interface.Answer request × World)
    (Before : World → World → Prop) (left : Routine interface α) (right : Routine interface β)
    (After : α → β → World → World → Prop) : Prop :=
  ∀ one two, Before one two →
    After (left.run serve one).1 (right.run serve two).1 (left.run serve one).2
      (right.run serve two).2

/-- Two ends of routines that may fail: both go well, in a good way, or both fail with the same
error, in a bad one. -/
def EndSame (Good : α → β → World → World → Prop) (Bad : World → World → Prop) :
    Except ε α → Except ε β → World → World → Prop
  | .ok left, .ok right, one, two => Good left right one two
  | .error left, .error right, one, two => left = right ∧ Bad one two
  | .ok _, .error _, _, _ => False
  | .error _, .ok _, _, _ => False

variable {serve : (request : interface.Request) → World → interface.Answer request × World}
variable {Before Earlier : World → World → Prop} {Bad Worse : World → World → Prop}

theorem Coupled.mono {left : Routine interface α} {right : Routine interface β}
    {After Later : α → β → World → World → Prop}
    (coupled : Coupled serve Before left right After)
    (before : ∀ one two, Earlier one two → Before one two)
    (after : ∀ value other one two, After value other one two → Later value other one two) :
    Coupled serve Earlier left right Later :=
  fun one two earlier => after _ _ _ _ (coupled one two (before one two earlier))

theorem EndSame.mono {Good Better : α → β → World → World → Prop} {result : Except ε α}
    {other : Except ε β} {one two : World} (same : EndSame Good Bad result other one two)
    (good : ∀ value other, Good value other one two → Better value other one two)
    (bad : Bad one two → Worse one two) : EndSame Better Worse result other one two := by
  cases result <;> cases other
  · exact ⟨same.1, bad same.2⟩
  · exact same
  · exact same
  · exact good _ _ same

theorem Coupled.mono_ends {left : ExceptT ε (Routine interface) α}
    {right : ExceptT ε (Routine interface) β} {Good Better : α → β → World → World → Prop}
    (coupled : Coupled serve Before left.run right.run (EndSame Good Bad))
    (good : ∀ value other one two, Good value other one two → Better value other one two)
    (bad : ∀ one two, Bad one two → Worse one two) :
    Coupled serve Before left.run right.run (EndSame Better Worse) :=
  coupled.mono (fun _ _ before => before) fun _ _ one two same =>
    same.mono (fun value other => good value other one two) (bad one two)

theorem coupled_of_fact {Fact : Prop} {left : Routine interface α} {right : Routine interface β}
    {After : α → β → World → World → Prop}
    (coupled : Fact → Coupled serve Before left right After) :
    Coupled serve (fun one two => Fact ∧ Before one two) left right After :=
  fun one two before => coupled before.1 one two before.2

/-! ## Sequences -/

theorem coupled_done {After : α → β → World → World → Prop} {value : α} {other : β}
    (after : ∀ one two, Before one two → After value other one two) :
    Coupled serve Before (done value) (done other) After :=
  after

theorem coupled_bind {Middle : α → β → World → World → Prop} {After : γ → δ → World → World → Prop}
    {left : Routine interface α} {right : Routine interface β}
    {next : α → Routine interface γ} {later : β → Routine interface δ}
    (first : Coupled serve Before left right Middle)
    (rest : ∀ value other, Coupled serve (Middle value other) (next value) (later other) After) :
    Coupled serve Before (left.bind next) (right.bind later) After := by
  intro one two before
  rw [run_bind, run_bind]
  exact rest _ _ _ _ (first one two before)

theorem coupled_bind_run {Middle : α → β → World → World → Prop}
    {Good : γ → δ → World → World → Prop} {left : ExceptT ε (Routine interface) α}
    {right : ExceptT ε (Routine interface) β} {next : α → ExceptT ε (Routine interface) γ}
    {later : β → ExceptT ε (Routine interface) δ}
    (first : Coupled serve Before left.run right.run (EndSame Middle Bad))
    (rest : ∀ value other, Coupled serve (Middle value other) (next value).run (later other).run
      (EndSame Good Bad)) :
    Coupled serve Before (left >>= next).run (right >>= later).run (EndSame Good Bad) := by
  change Coupled serve Before (left.run.bind (ExceptT.bindCont next))
    (right.run.bind (ExceptT.bindCont later)) _
  refine coupled_bind first ?_
  intro result other
  -- That only one of the two has failed is ruled out by the ends of the first part.
  cases result with
  | error error =>
      cases other with
      | error _ => exact coupled_done fun _ _ same => same
      | ok _ => exact fun _ _ impossible => impossible.elim
  | ok value =>
      cases other with
      | error _ => exact fun _ _ impossible => impossible.elim
      | ok other => exact rest value other

theorem coupled_liftOk_bind_run {After : Except ε γ → Except ε δ → World → World → Prop} (value : α)
    {next : α → ExceptT ε (Routine interface) γ} {later : α → ExceptT ε (Routine interface) δ}
    (rest : Coupled serve Before (next value).run (later value).run After) :
    Coupled serve Before
      ((liftM (.ok value : Except ε α) : ExceptT ε (Routine interface) α) >>= next).run
      ((liftM (.ok value : Except ε α) : ExceptT ε (Routine interface) α) >>= later).run After :=
  rest

theorem EndSame.eq {result other : Except ε α} {one two : World}
    (same : EndSame (fun value other one two => value = other ∧ Bad one two) Bad result other one
      two) : result = other ∧ Bad one two := by
  cases result <;> cases other
  · exact ⟨congrArg Except.error same.1, same.2⟩
  · exact same.elim
  · exact same.elim
  · exact ⟨congrArg Except.ok same.1, same.2⟩

theorem run_bind_ok {action : ExceptT ε (Routine interface) α}
    {next : α → ExceptT ε (Routine interface) β} {value : α} {world later : World}
    (ran : action.run.run serve world = (.ok value, later)) :
    (action >>= next).run.run serve world = (next value).run.run serve later := by
  change (action.run.bind (ExceptT.bindCont next)).run serve world = _
  rw [run_bind, ran]
  rfl

theorem run_bind_error {action : ExceptT ε (Routine interface) α}
    {next : α → ExceptT ε (Routine interface) β} {error : ε} {world later : World}
    (ran : action.run.run serve world = (.error error, later)) :
    (action >>= next).run.run serve world = (.error error, later) := by
  change (action.run.bind (ExceptT.bindCont next)).run serve world = _
  rw [run_bind, ran]
  rfl

/-! ## Routines that do not tell worlds apart -/

/-- Whether a routine has the same result in worlds that are alike, and leaves them alike. -/
def Keeps (serve : (request : interface.Request) → World → interface.Answer request × World)
    (Same : World → World → Prop) (routine : Routine interface α) : Prop :=
  Coupled serve Same routine routine fun result other one two => result = other ∧ Same one two

variable {Same : World → World → Prop}

theorem keeps_done (value : α) : Keeps serve Same (done value) :=
  coupled_done fun _ _ same => ⟨rfl, same⟩

theorem keeps_bind {routine : Routine interface α} {next : α → Routine interface β}
    (first : Keeps serve Same routine) (rest : ∀ value, Keeps serve Same (next value)) :
    Keeps serve Same (routine.bind next) := by
  refine coupled_bind first fun value other => ?_
  apply coupled_of_fact
  rintro rfl
  exact rest value

theorem keeps_bind_run {action : ExceptT ε (Routine interface) α}
    {next : α → ExceptT ε (Routine interface) β} (first : Keeps serve Same action.run)
    (rest : ∀ value, Keeps serve Same (next value).run) :
    Keeps serve Same (action >>= next).run := by
  apply keeps_bind first
  intro answer
  cases answer with
  | error error => exact keeps_done _
  | ok value => exact rest value

theorem keeps_of_requests (requests : ∀ asked, Keeps serve Same (request asked))
    (routine : Routine interface α) : Keeps serve Same routine := by
  induction routine with
  | done value => exact keeps_done value
  | ask asked next induction => exact keeps_bind (requests asked) induction

/-- A routine that is carried out runs in the world that is seen through the plan. -/
theorem keeps_carryOut_iff {target : Interface.{v}}
    {serve : (request : target.Request) → World → target.Answer request × World}
    {plan : (request : interface.Request) → Routine target (interface.Answer request)}
    {routine : Routine interface α} :
    Keeps serve Same (routine.carryOut plan) ↔
      Keeps (fun request => (plan request).run serve) Same routine := by
  simp only [Keeps, Coupled, run_carryOut]

theorem keeps_carryOut {target : Interface.{v}}
    {serve : (request : target.Request) → World → target.Answer request × World}
    {plan : (request : interface.Request) → Routine target (interface.Answer request)}
    (keeps : ∀ asked, Keeps serve Same (plan asked)) (routine : Routine interface α) :
    Keeps serve Same (routine.carryOut plan) :=
  keeps_carryOut_iff.mpr (keeps_of_requests keeps routine)

end ClockBoard.Routine
