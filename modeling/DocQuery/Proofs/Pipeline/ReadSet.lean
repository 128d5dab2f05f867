import DocQuery.Pipeline.ReadSet
import DocQuery.Proofs.Pipeline.Children

/-!
# What is read

The paths that several trees read are those of each of them, one after the other.  The read set has
the paths of all stages, in another order.

## Main definitions

* `Operation.isMatch` — the tests of array elements, which alone read below the path they are at.

## Main results

* `Expression.readsOfAll_eq`, `Expression.readsOfFields_eq`, `Filter.readsOfAll_eq` — the paths of
  several trees.
* `Filter.reads_field_path` — the paths of a test.
* `Pipeline.mem_readSet` — the paths in a read set.
-/

namespace DocQuery

/-! ### Expressions -/

theorem Expression.readsOfAll_eq (above : Option String) (es : List Expression) :
    readsOfAll above es = es.flatMap (·.reads above) := by
  induction es with
  | nil => rfl
  | cons e es ih => rw [readsOfAll, ih, List.flatMap_cons]

theorem Expression.readsOfFields_eq (above : Option String) (fields : List (String × Expression)) :
    readsOfFields above fields = fields.flatMap (·.2.reads above) := by
  induction fields with
  | nil => rfl
  | cons field fields ih => rw [readsOfFields, ih, List.flatMap_cons]

/-! ### Filters and operations -/

theorem Filter.readsOfAll_eq (above : Option String) (fs : List Filter) :
    Filter.readsOfAll above fs = fs.flatMap (·.reads above) := by
  induction fs with
  | nil => rfl
  | cons f fs ih => rw [Filter.readsOfAll, ih, List.flatMap_cons]

theorem Filter.reads_and (args : List Filter) (above : Option String) :
    (Filter.and args).reads above = args.flatMap (·.reads above) := by
  rw [reads, Filter.readsOfAll_eq]

theorem Filter.reads_or (args : List Filter) (above : Option String) :
    (Filter.or args).reads above = args.flatMap (·.reads above) := by
  rw [reads, Filter.readsOfAll_eq]

theorem Filter.reads_nor (args : List Filter) (above : Option String) :
    (Filter.nor args).reads above = args.flatMap (·.reads above) := by
  rw [reads, Filter.readsOfAll_eq]

/-- The operation tests the elements of an array. -/
def Operation.isMatch : Operation → Bool
  | .elemMatch _ => true
  | _ => false

/-- The path is read, and then what the operation reads: below the path if it tests the elements of
the array there, and else where the test itself is. -/
theorem Filter.reads_field_path (above : Option String) (path : String) (operation : Operation) :
    (Filter.field (.path path) operation).reads above
      = pathBelow above path ::
        operation.reads (if operation.isMatch then some (pathBelow above path) else above) := by
  cases operation <;> rfl

/-! ### Pipelines -/

@[simp] theorem mem_insertSorted {s t : String} {ts : List String} :
    s ∈ insertSorted t ts ↔ s = t ∨ s ∈ ts := by
  induction ts with
  | nil => simp [insertSorted]
  | cons u us ih =>
    rw [insertSorted]
    split
    · exact List.mem_cons
    · split
      · next heq =>
        rw [heq, List.mem_cons, or_self_left]
      · rw [List.mem_cons, ih, List.mem_cons, or_left_comm]

theorem Pipeline.mem_readSet {p : Pipeline} {path : String} :
    path ∈ p.readSet ↔ ∃ stage ∈ p.stages, path ∈ stage.reads := by
  rw [readSet, ← List.mem_flatMap]
  induction p.stages.flatMap (·.reads) with
  | nil => rfl
  | cons first rest ih => rw [List.foldr_cons, mem_insertSorted, ih, List.mem_cons]

end DocQuery
