import DocQuery.Compile.Basic
import DocQuery.Pipeline.Rendering

/-!
# Commands

The documents that are sent to a database: a pipeline becomes an `aggregate` command, and one that
only selects, sorts, leaves out and bounds, in this order, can be a `find` command.

## Main definitions

* `aggregateCommand`, `findCommand?` — the commands of a pipeline.
* `commandFor` — the command of a compiled text.
* `Sink`, `send` — where commands are sent to.
-/

namespace DocQuery

/-- The `aggregate` command of a pipeline. -/
def aggregateCommand (collection : String) (p : Pipeline) : Value :=
  .object [("aggregate", .string collection), ("pipeline", p.toValue), ("cursor", .object [])]

/-- A `find` command. -/
structure FindCommand where
  collection : String
  filter : Option Filter
  keys : Option (List SortKey)
  skip : Option Int64
  limit : Option Int64

/-- The document of a `find` command. -/
def FindCommand.toValue (c : FindCommand) : Value :=
  let optional (key : String) (value : Option Value) : List (String × Value) :=
    (value.map fun v => (key, v)).toList
  .object ([
      ("find", .string c.collection),
      ("filter", (c.filter.map (·.toValue)).getD (.object []))]
    ++ optional "sort"
      (c.keys.map fun keys => .object (keys.map fun k => (k.path, k.direction.toValue)))
    ++ optional "skip" (c.skip.map .int)
    ++ optional "limit" (c.limit.map .int))

/-- The first stage, if it selects, and the others. -/
def takeSelect : List Stage → Option Filter × List Stage
  | .select filter :: stages => (some filter, stages)
  | stages => (none, stages)

/-- The first stage, if it sorts, and the others. -/
def takeSort : List Stage → Option (List SortKey) × List Stage
  | .sort keys :: stages => (some keys, stages)
  | stages => (none, stages)

/-- The first stage, if it leaves documents out, and the others. -/
def takeSkip : List Stage → Option Int64 × List Stage
  | .skip n :: stages => (some n, stages)
  | stages => (none, stages)

/-- The first stage, if it bounds the number of documents, and the others. -/
def takeLimit : List Stage → Option Int64 × List Stage
  | .limit n :: stages => (some n, stages)
  | stages => (none, stages)

/-- The `find` command of a pipeline, if it has no stages but those that such a command can express,
in its order. -/
def findCommand? (collection : String) (p : Pipeline) : Option FindCommand :=
  let (filter, stages) := takeSelect p.stages
  let (keys, stages) := takeSort stages
  let (skip, stages) := takeSkip stages
  let (limit, stages) := takeLimit stages
  if stages.isEmpty then some ⟨collection, filter, keys, skip, limit⟩ else none

/-- The command of a compiled text: `find` for a condition, `aggregate` for a query. -/
def commandFor (collection : String) (c : Compiled) : Value :=
  let find? := match c.shape with
    | .condition => findCommand? collection c.pipeline
    | .query => none
  match find? with
  | some command => command.toValue
  | none => aggregateCommand collection c.pipeline

/-- Where commands are sent: takes the name of a database and a command to a reply. -/
abbrev Sink (ε : Type) : Type :=
  String → Value → Except ε Value

/-- Sends the `aggregate` command of a pipeline. -/
def sendAggregate {ε : Type} (sink : Sink ε) (database collection : String) (p : Pipeline) :
    Except ε Value :=
  sink database (aggregateCommand collection p)

/-- Sends a `find` command. -/
def FindCommand.send {ε : Type} (sink : Sink ε) (database : String) (c : FindCommand) :
    Except ε Value :=
  sink database c.toValue

end DocQuery
