import DocQuery.Lowering.Statement
import DocQuery.Query.Parser
import DocQuery.Revision.Coalesce
import DocQuery.Revision.Simplify

/-!
# Compilation

From the text of a query, or of a condition on its own, to a pipeline: the text is parsed and
lowered, and then the passes that are asked for run.

## Main definitions

* `CompileOptions` — which passes run, and how results are kept.
* `CompileError` — why a text has no pipeline, with the message.
* `Compiled` — a pipeline with the text that it was compiled from.
* `compile` — the compilation of a text.
-/

namespace DocQuery

/-- Which passes run after lowering, and how results are kept. -/
structure CompileOptions where
  /-- Simplify filters and expressions. -/
  simplify : Bool := true
  /-- Merge neighbouring stages. -/
  coalesce : Bool := false
  /-- Keep what has been compiled. -/
  cache : Bool := true
  /-- The most pipelines that are kept. -/
  capacity : Nat := 1024

/-- Why a text cannot be compiled. -/
inductive CompileError where
  | parse (e : ParseError)
  | lowering (e : LoweringError)
  /-- A pass made a node that refuses an argument. -/
  | argument (e : ArgumentError)

/-- The wording of an error. -/
def CompileError.message : CompileError → String
  | .parse e => s!"parse error: {e.message}"
  | .lowering e => e.message
  | .argument e => e.message

/-- What a pipeline was compiled from. -/
inductive Shape where
  /-- A query; each statement is one stage. -/
  | query
  /-- A condition, which selects in a single stage. -/
  | condition
  deriving DecidableEq

/-- A compiled text. -/
structure Compiled where
  source : String
  shape : Shape
  pipeline : Pipeline

/-- The filter of a compiled condition. -/
def Compiled.filter? (c : Compiled) : Option Filter :=
  match c.shape, c.pipeline.stages with
  | .condition, [.select filter] => some filter
  | _, _ => none

/-- What a text is, and its pipeline before any pass. -/
def lowerText (context : Context) (source : String) : Except CompileError (Shape × Pipeline) :=
  if isQueryText source then do
    let query ← (Query.parse source).mapError .parse
    return (.query, ← (lowerQuery context query).mapError .lowering)
  else do
    let e ← (Expr.parse source).mapError .parse
    let filter ← (lowerCondition context .document e).mapError .lowering
    return (.condition, ⟨[.select filter]⟩)

/-- Runs a pass on a pipeline if it is asked for. -/
def runPass (asked : Bool) (pass : Pipeline → Except ArgumentError (Revised Pipeline))
    (p : Pipeline) : Except CompileError Pipeline :=
  if asked then do return (← (pass p).mapError .argument).resolve p else .ok p

/-- The compilation of a text as it stands. -/
def compile (context : Context) (options : CompileOptions) (source : String) :
    Except CompileError Compiled := do
  let (shape, p) ← lowerText context source
  let p ← runPass options.simplify DocQuery.simplify p
  let p ← runPass options.coalesce DocQuery.coalesce p
  return ⟨source, shape, p⟩

end DocQuery
