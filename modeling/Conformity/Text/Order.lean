/-!
# Texts in order

Texts are ordered character by character, characters by their codes.
-/

namespace Conformity.Text

/-- Texts in order. -/
def sorted (texts : List String) : List String := texts.mergeSort fun a b => decide (a ≤ b)

/-- Texts in order, each one once. -/
def sortedSet (texts : List String) : List String := (sorted texts).eraseDups

end Conformity.Text
