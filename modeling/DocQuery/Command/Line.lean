import DocQuery.Command.Basic
import DocQuery.Compile.Compiler
import DocQuery.Evaluation.Stage
import DocQuery.Value.Shell

/-!
# The command line

What the two commands of the program do: `compile` turns a query into the command for a database,
and `run` runs it on documents given as JSON text.

## Main definitions

* `LineError` — what can go wrong, with the message.
* `CompileRequest`, `executeCompile` — the command `compile`.
* `RunRequest`, `executeRun` — the command `run`.
* `formatOutput` — the text that is printed.
-/

namespace DocQuery

/-- What can go wrong in a command. -/
inductive LineError where
  | definition (e : DefinitionError)
  | parse (e : ParseError)
  | compile (e : CompileError)
  | eval (e : EvalError)
  /-- The input is no JSON text. -/
  | json
  | noInput
  /-- The input is a value of the given type, which is no document. -/
  | notDocuments (type : String)

/-- The wording of an error. -/
def LineError.message : LineError → String
  | .definition e => s!"Invalid definition: {e.message}"
  | .parse e => s!"Parse error: {e.message}"
  | .compile e => s!"Compile error: {e.message}"
  | .eval e => s!"Evaluation error: {e.message}"
  | .json => "Invalid JSON"
  | .noInput => "No input provided. Use --input or pipe a JSON array of documents to stdin."
  | .notDocuments type =>
    s!"Input must be a JSON array of documents or a single document, got {type}"

/-- What is to be compiled. -/
structure CompileRequest where
  query : String
  collection : String
  /-- Definitions of parameters. -/
  parameters : List String
  /-- Definitions of constants. -/
  constants : List String
  /-- Merge neighbouring stages. -/
  optimize : Bool
  /-- Check the syntax only. -/
  syntaxOnly : Bool

/-- What is to be run. -/
structure RunRequest where
  query : String
  /-- The documents as JSON text. -/
  input : Option String
  /-- Definitions of parameters. -/
  parameters : List String
  /-- Definitions of constants. -/
  constants : List String

/-- Whether a text can be parsed. -/
def checkSyntax (text : String) : Except ParseError Unit :=
  if isQueryText text then do
    let _ ← Query.parse text
  else do
    let _ ← Expr.parse text

/-- The compilation of a text for one command, for which nothing is kept. -/
def compileOnce (parameters constants : List String) (coalesce : Bool) (query : String) :
    Except LineError Compiled := do
  let context ← (Context.define parameters constants).mapError .definition
  let options : CompileOptions := { coalesce := coalesce, cache := false }
  (DocQuery.compile context options (Text.trim query)).mapError .compile

/-- The command for a database, or nothing if only the syntax is checked. -/
def executeCompile (request : CompileRequest) : Except LineError (Option Value) :=
  if request.syntaxOnly then do
    (checkSyntax request.query).mapError .parse
    return none
  else do
    let compiled ← compileOnce request.parameters request.constants request.optimize request.query
    return some (commandFor request.collection compiled)

/-- The documents of an input: the items of an array, or a single document. -/
def readDocuments (input : Option String) : Except LineError (List Value) :=
  match input with
  | none => .error .noInput
  | some text =>
    match ofJson? text with
    | none => .error .json
    | some (.array documents) => .ok documents
    | some (.object fields) => .ok [.object fields]
    | some value => .error (.notDocuments value.typeName)

/-- The documents that a query makes of the input. -/
def executeRun (request : RunRequest) : Except LineError Value := do
  let documents ← readDocuments request.input
  let compiled ← compileOnce request.parameters request.constants false request.query
  return .array (← (compiled.pipeline.run documents).mapError .eval)

/-- The text that is printed for a value: JSON or the notation of the shell, on one line or on
several. -/
def formatOutput (value : Value) (shell pretty : Bool) : String :=
  match shell, pretty with
  | false, false => toJson value
  | false, true => toJsonLines value
  | true, false => toShell value
  | true, true => toShellLines value

end DocQuery
