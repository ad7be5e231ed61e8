/-!
# Texts in ascending order

Lists of texts are shown in the order of their characters, each text once.
-/

namespace Stencil

/-- The texts of a list in ascending order, each once. -/
def ascending (texts : List String) : List String :=
  (texts.mergeSort fun a b => decide (a ≤ b)).eraseReps

end Stencil
