/-
  Lowerings: computations that write a layer.

  A `Lowering` reads and writes a layer and may stop with an error.  An error takes nothing back:
  what was written before it stays written.
-/
import UtilityStyle.Design.Layer
import UtilityStyle.Lowering.Measure

namespace UtilityStyle

/-- A computation that reads and writes a layer and may stop with an error. -/
abbrev Lowering := EStateM LoweringError Layer

namespace Lowering

/-- A measure as a computation.  It leaves the layer alone. -/
def ofExcept {α : Type} : Except LoweringError α → Lowering α
  | .ok a => pure a
  | .error error => throw error

instance : MonadLift (Except LoweringError) Lowering := ⟨ofExcept⟩

end Lowering

end UtilityStyle
