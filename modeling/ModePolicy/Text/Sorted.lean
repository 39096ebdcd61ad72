/-!
The order of texts: by their characters, and those by code point.
-/

namespace ModePolicy.Text

/-- Texts in order. -/
def sorted (texts : List String) : List String := texts.mergeSort fun a b => decide (a ≤ b)

end ModePolicy.Text
