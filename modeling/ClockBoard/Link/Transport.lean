import ClockBoard.Link.Batch

/-!
A transport carries batches to registers, wherever they are: on hardware, in memory, or in a model
of a circuit. It changes by carrying a batch, whether it answers or fails.
-/

namespace ClockBoard.Link

class Transport (σ : Type) where
  dispatch : Batch → σ → Except Error Response × σ

export Transport (dispatch)

end ClockBoard.Link
