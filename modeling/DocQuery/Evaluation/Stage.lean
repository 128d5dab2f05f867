import DocQuery.Evaluation.Filter
import DocQuery.Pipeline.Stage

/-!
# Running pipelines

What the stages of a pipeline make of a list of documents.

## Main definitions

* `project`, `groupDocuments`, `sortDocuments`, `unwindDocument` — the stages with rules of their
  own.
* `Stage.run` — the documents after a stage.
* `Pipeline.run` — the documents after all stages.
-/

namespace DocQuery

/-! ### Projections -/

/-- The document with a path set to a value. -/
def Value.assign (document : Value) (path : String) (value : Value) : Value :=
  Value.set value (pathSegments path) document

/-- The document without a path. -/
def Value.without (document : Value) (path : String) : Value :=
  document.remove (pathSegments path)

/-- Adds what an entry of a projection asks for to the output. -/
def Projection.contribute (document output : Value) : Projection → Except EvalError Value
  | .keep path =>
    match document.at? (pathSegments path) with
    | some value => .ok (output.assign path value)
    | none => .ok output
  | .drop _ => .ok output
  | .compute path e => return output.assign path (← e.evalOn document)

/-- What a projection begins with: the `_id` of the document, unless it is dropped. -/
def startingId (entries : List Projection) (document : Value) : Value :=
  let dropped := entries.any fun e => e.isDrop && e.path = "_id"
  match document.fields.lookup "_id" with
  | some id => if dropped then .object [] else .object [("_id", id)]
  | none => .object []

/-- The projection of a document.  One that only drops paths keeps all others; any other keeps
`_id` and what it names. -/
def project (entries : List Projection) (document : Value) : Except EvalError Value :=
  if entries.all (·.isDrop) then
    .ok (entries.foldl (fun output e => output.without e.path) document)
  else
    entries.foldlM (fun output e => e.contribute document output) (startingId entries document)

/-- The document with fields set to values computed from it. -/
def setFields (fields : List (String × Expression)) (document : Value) : Except EvalError Value :=
  fields.foldlM (fun output (path, e) => return output.assign path (← e.evalOn document)) document

/-- The document computed from another one. -/
def replaceRoot (e : Expression) (document : Value) : Except EvalError Value := do
  match ← e.evalOn document with
  | .object fields => return .object fields
  | value => typeError (.rootNeedsDocument value.typeName)

/-! ### Groups -/

/-- The key of a document and what it yields for each accumulator. -/
def groupRow (key : Expression) (accumulators : List (String × AccumulatorExpression))
    (document : Value) : Except EvalError (Value × List Value) := do
  let k ← key.evalOn document
  return (k, ← accumulators.mapM fun (_, a) => a.arg.evalOn document)

/-- Puts a row into its group, or into a new one at the end. -/
def insertRow (row : Value × List Value) :
    List (Value × List (List Value)) → List (Value × List (List Value))
  | [] => [(row.1, [row.2])]
  | (key, rows) :: groups =>
    if key.equal row.1 then (key, rows ++ [row.2]) :: groups
    else (key, rows) :: insertRow row groups

/-- The rows by key, in the order in which the keys come up first. -/
def groupRows (rows : List (Value × List Value)) : List (Value × List (List Value)) :=
  rows.foldl (fun groups row => insertRow row groups) []

/-- What the accumulators from the given place on collect from the rows of a group. -/
def collect (rows : List (List Value)) :
    Nat → List (String × AccumulatorExpression) → Except EvalError (List (String × Value))
  | _, [] => .ok []
  | place, (name, a) :: accumulators => do
    let value ← a.operator.eval (rows.filterMap (·[place]?))
    return (name, value) :: (← collect rows (place + 1) accumulators)

/-- One document for each group, with the key as `_id`. -/
def groupDocuments (key : Expression) (accumulators : List (String × AccumulatorExpression))
    (documents : List Value) : Except EvalError (List Value) := do
  let rows ← documents.mapM (groupRow key accumulators)
  (groupRows rows).mapM fun (key, rows) =>
    return .object (("_id", key) :: (← collect rows 0 accumulators))

/-! ### Order and number -/

/-- The order of two documents by a key. -/
def SortKey.order (key : SortKey) (a b : Value) : Ordering :=
  let order := (a.atPath key.path).order (b.atPath key.path)
  match key.direction with
  | .ascending => order
  | .descending => order.swap

/-- The order of two documents by the first key that tells them apart. -/
def sortOrder (keys : List SortKey) (a b : Value) : Ordering :=
  keys.foldr (fun key rest => (key.order a b).then rest) .eq

/-- The documents sorted by keys; those equal by all keys keep their order. -/
def sortDocuments (keys : List SortKey) (documents : List Value) : List Value :=
  sortBy (sortOrder keys) documents

/-- One document for each element of the array at a path.  Without such elements the document is
kept if the path leads to another value or if that is asked for. -/
def unwindDocument (path : String) (keepEmpty : Bool) (document : Value) : List Value :=
  match document.atPath path with
  | .array [] => if keepEmpty then [document.without path] else []
  | .array items => items.map fun item => document.assign path item
  | .null => if keepEmpty then [document] else []
  | _ => [document]

/-- The number of documents, unless there are none. -/
def countDocuments (name : String) (documents : List Value) : List Value :=
  if documents.isEmpty then [] else [.entry name (.ofNat documents.length)]

/-! ### Stages -/

/-- The documents after a stage. -/
def Stage.run : Stage → List Value → Except EvalError (List Value)
  | .select filter, documents => keepItems (fun d => filter.holds d) documents
  | .project entries, documents => mapItems (DocQuery.project entries) documents
  | .replaceRoot e, documents => mapItems (DocQuery.replaceRoot e) documents
  | .addFields fields, documents => mapItems (setFields fields) documents
  | .group key accumulators, documents => groupDocuments key accumulators documents
  | .sort keys, documents => .ok (sortDocuments keys documents)
  | .skip n, documents => .ok (documents.drop n.toInt.toNat)
  | .limit n, documents => .ok (documents.take n.toInt.toNat)
  | .unwind path keepEmpty, documents => .ok (documents.flatMap (unwindDocument path keepEmpty))
  | .count name, documents => .ok (countDocuments name documents)

/-- The documents after all stages. -/
def Pipeline.run (p : Pipeline) (documents : List Value) : Except EvalError (List Value) :=
  p.stages.foldlM (fun documents stage => stage.run documents) documents

end DocQuery
