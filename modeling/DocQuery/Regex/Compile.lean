import DocQuery.Regex.Machine
import DocQuery.Regex.Reader

/-!
# Patterns for searches

A text is a pattern for a search if it writes one and the machines that search for it are not too
large.

## Main definitions

* `compile?` — the pattern.
-/

namespace DocQuery.Regex

/-- The pattern of a text with the given letters of options, if it is one to search for. -/
def compile? (text options : String) : Option Pattern := do
  let pattern ← readPattern (flagsOf options) text
  if pattern.normal.fits then some pattern else none

end DocQuery.Regex
