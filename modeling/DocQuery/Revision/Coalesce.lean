import DocQuery.Revision.Revised

/-!
# Coalescing stages

Neighbouring stages that do the work of one: selections become one selection by the conjunction of
their filters, and numbers of documents to leave out are added and bounds on their number replaced
by the smaller one.

## Main definitions

* `mergeStages?` — two neighbouring stages as one.
* `coalesce` — a pipeline with all such neighbours merged.
-/

namespace DocQuery

/-- The operands of a filter as a conjunction. -/
def Filter.conjuncts : Filter → List Filter
  | .and args => args
  | filter => [filter]

/-- Two neighbouring stages as one, if they can be merged.  Numbers to leave out are not merged if
their sum does not fit 64 bits. -/
def mergeStages? : Stage → Stage → Except ArgumentError (Option Stage)
  | .select f, .select g => do
    return some (.select (← Filter.and? (f.conjuncts ++ g.conjuncts)))
  | .skip a, .skip b =>
    match signed64? (a.toInt + b.toInt) with
    | some n => some <$> Stage.skip? n
    | none => .ok none
  | .limit a, .limit b => some <$> Stage.limit? (if a ≤ b then a else b)
  | _, _ => .ok none

/-- The stages that come out when the given one is followed by more stages. -/
def mergeFrom (last : Stage) : List Stage → Except ArgumentError (List Stage)
  | [] => .ok [last]
  | stage :: stages => do
    match ← mergeStages? last stage with
    | some merged => mergeFrom merged stages
    | none => return last :: (← mergeFrom stage stages)

/-- The stages with neighbours merged. -/
def mergeAll : List Stage → Except ArgumentError (List Stage)
  | [] => .ok []
  | stage :: stages => mergeFrom stage stages

/-- The pipeline with neighbouring stages merged; it is kept if there were none to merge. -/
def coalesce (p : Pipeline) : Except ArgumentError (Revised Pipeline) := do
  let stages ← mergeAll p.stages
  return if stages.length = p.stages.length then .kept else .changed ⟨stages⟩

end DocQuery
