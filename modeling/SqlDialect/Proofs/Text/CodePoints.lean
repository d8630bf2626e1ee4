/-!
# The order of texts

Texts are ordered as their rows of code points are.
-/

namespace SqlDialect

/-- A text as the numbers of its characters. -/
def codePoints (text : String) : List Nat :=
  text.toList.map Char.toNat

theorem codePoints_lt {a b : String} (h : a < b) : codePoints a < codePoints b := by
  refine List.map_lt ?_ (String.lt_iff.1 h)
  intro x y hxy
  exact hxy

end SqlDialect
