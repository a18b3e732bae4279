import ClockBoard.Proofs.Upload.Basic

/-!
What failures cost. If every attempt that fails has its price, then each failure that is reported
has cost the price of all attempts at its register, so that a bound on the cost of an upload is a
bound on the number of its failures.
-/

namespace ClockBoard.Upload

universe w

variable {World : Type w} {Toll : Type} [AddMonoid Toll]

/-- What attempts cost that fail with a writer. `Fair` tells the tolls about which anything is
said. -/
structure Charging (service : Service interface World Toll) where
  Ready : World → Prop
  Fair : Toll → Prop
  cost : Toll → Nat
  price : Nat
  fair_add : ∀ {first rest}, Fair (first + rest) → Fair first ∧ Fair rest
  cost_add : ∀ first rest, cost (first + rest) = cost first + cost rest
  ready : ∀ {request before answer after toll}, service request before answer after toll →
    Fair toll → Ready before → Ready after
  charged : ∀ {address value before reason after toll},
    service (.write address value) before (.error reason) after toll → Fair toll →
    Ready before → price ≤ cost toll

namespace Charging

variable {service : Service interface World Toll} {before after : World} {toll : Toll}

def Pays (charging : Charging service) (policy : Policy) (_ : List Assignment)
    (failures : List Failure) (before after : World) (toll : Toll) : Prop :=
  charging.Fair toll → charging.Ready before → charging.Ready after ∧
    failures.length * (max policy.attempts 1 * charging.price) ≤ charging.cost toll

theorem tried (charging : Charging service) {assignment : Assignment} {count : Nat}
    (tried : Tried service assignment count before after toll) (fair : charging.Fair toll)
    (ready : charging.Ready before) :
    charging.Ready after ∧ count * charging.price ≤ charging.cost toll := by
  induction tried with
  | never world => exact ⟨ready, by simp⟩
  | again reason event failed noted rest induction =>
      rcases charging.fair_add fair with ⟨first, others⟩
      rcases charging.fair_add others with ⟨second, third⟩
      have middle := charging.ready failed first ready
      have paid := charging.charged failed first ready
      rcases induction third (charging.ready noted second middle) with ⟨last, more⟩
      refine ⟨last, ?_⟩
      rw [charging.cost_add, charging.cost_add, Nat.succ_mul]
      omega

theorem account (charging : Charging service) (policy : Policy) :
    Account service policy (charging.Pays policy) where
  idle world _ ready := ⟨ready, by simp⟩
  settle settled fair ready := ⟨charging.ready settled fair ready, by simp⟩
  note noted fair ready := ⟨charging.ready noted fair ready, by simp⟩
  write possible fair ready := by
    rcases possible_writeAssignment possible with
      ⟨rfl, count, middle, first, rest, tried, taken, rfl⟩ | ⟨failure, rfl, _, tried⟩
    · rcases charging.fair_add fair with ⟨before, last⟩
      rcases charging.tried tried before ready with ⟨reached, _⟩
      exact ⟨charging.ready taken last reached, by simp⟩
    · rcases charging.tried tried fair ready with ⟨reached, paid⟩
      exact ⟨reached, by simpa using paid⟩
  trans one two fair ready := by
    rcases charging.fair_add fair with ⟨first, rest⟩
    rcases one first ready with ⟨reached, paid⟩
    rcases two rest reached with ⟨last, more⟩
    refine ⟨last, ?_⟩
    rw [charging.cost_add, List.length_append, Nat.add_mul]
    exact Nat.add_le_add paid more

end Charging

end ClockBoard.Upload
