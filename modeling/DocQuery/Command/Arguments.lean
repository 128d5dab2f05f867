import DocQuery.Command.Line

/-!
# Arguments of the command line

The words after the program's name: a command, its query, and options in any order.

## Main definitions

* `UsageError` — why the words are no invocation, with the message.
* `Invocation` — what is to be done.
* `Invocation.ofArguments` — the invocation that words ask for.
-/

namespace DocQuery

/-- Why words are no invocation. -/
inductive UsageError where
  | noCommand
  | unknownCommand (word : String)
  | noQuery
  /-- A further word that is no option. -/
  | extraWord (word : String)
  | unknownOption (option : String)
  /-- An option at the end that takes a value. -/
  | noValue (option : String)
  deriving DecidableEq

/-- The wording of an error. -/
def UsageError.message : UsageError → String
  | .noCommand => "a command is required: compile or run"
  | .unknownCommand word => s!"unrecognized command '{word}'"
  | .noQuery => "a query is required"
  | .extraWord word => s!"unexpected argument '{word}'"
  | .unknownOption option => s!"unexpected option '{option}'"
  | .noValue option => s!"a value is required for '{option}'"

/-- The commands. -/
inductive CommandName where
  | compile
  | run
  deriving DecidableEq

/-- An option that takes a value. -/
inductive Setting where
  | collection
  | parameter
  | constant
  | input

/-- An option that takes none. -/
inductive Switch where
  | pretty
  | shell
  | optimize
  | syntaxOnly

/-- The option of a command that takes a value. -/
def setting? : CommandName → String → Option Setting
  | .compile, "--collection" => some .collection
  | .compile, "-c" => some .collection
  | .run, "--input" => some .input
  | .run, "-i" => some .input
  | _, "--param" => some .parameter
  | _, "--constant" => some .constant
  | _, _ => none

/-- The option of a command that takes no value. -/
def switch? : CommandName → String → Option Switch
  | _, "--pretty" => some .pretty
  | _, "-p" => some .pretty
  | .compile, "--shell" => some .shell
  | .compile, "--optimize" => some .optimize
  | .compile, "--syntax-only" => some .syntaxOnly
  | _, _ => none

/-- What the words after a command say. -/
structure Words where
  query : Option String := none
  collection : String := "documents"
  input : Option String := none
  parameters : List String := []
  constants : List String := []
  pretty : Bool := false
  shell : Bool := false
  optimize : Bool := false
  syntaxOnly : Bool := false

/-- The words with an option set.  Definitions add up; of all others the last one counts. -/
def Words.set (w : Words) (value : String) : Setting → Words
  | .collection => { w with collection := value }
  | .parameter => { w with parameters := w.parameters ++ [value] }
  | .constant => { w with constants := w.constants ++ [value] }
  | .input => { w with input := some value }

/-- The words with an option switched on. -/
def Words.switchOn (w : Words) : Switch → Words
  | .pretty => { w with pretty := true }
  | .shell => { w with shell := true }
  | .optimize => { w with optimize := true }
  | .syntaxOnly => { w with syntaxOnly := true }

/-- The words with a query, which is given once. -/
def Words.withQuery (w : Words) (word : String) : Except UsageError Words :=
  if w.query.isNone then .ok { w with query := some word } else .error (.extraWord word)

/-- A word that is an option. -/
def isOption (word : String) : Bool :=
  match word.toList with
  | '-' :: _ :: _ => true
  | _ => false

/-- An option and its value written as one word, `option=value`. -/
def splitOption (word : String) : Option (String × String) :=
  (Text.splitOnce '=' word.toList).map fun (option, value) =>
    (String.ofList option, String.ofList value)

/-- The words with one that stands alone: the query, an option that takes no value, or an option
together with its value. -/
def Words.addWord (w : Words) (command : CommandName) (word : String) :
    Except UsageError Words :=
  if isOption word then
    match switch? command word, splitOption word with
    | some switch, _ => .ok (w.switchOn switch)
    | none, none => .error (.unknownOption word)
    | none, some (option, value) =>
      match setting? command option with
      | some setting => .ok (w.set value setting)
      | none => .error (.unknownOption word)
  else w.withQuery word

/-- Reads the words after a command. -/
def Words.read (command : CommandName) : Words → List String → Except UsageError Words
  | w, [] => .ok w
  | w, [word] =>
    if (setting? command word).isSome then .error (.noValue word) else w.addWord command word
  | w, word :: value :: rest =>
    match setting? command word with
    | some setting => read command (w.set value setting) rest
    | none => do read command (← w.addWord command word) (value :: rest)

/-- What is to be done. -/
inductive Invocation where
  | compile (request : CompileRequest) (shell pretty : Bool)
  | run (request : RunRequest) (pretty : Bool)

/-- The invocation of a command with the words after it. -/
def Invocation.ofWords (command : CommandName) (w : Words) : Except UsageError Invocation :=
  match w.query, command with
  | none, _ => .error .noQuery
  | some query, .compile =>
    .ok (.compile ⟨query, w.collection, w.parameters, w.constants, w.optimize, w.syntaxOnly⟩
      w.shell w.pretty)
  | some query, .run => .ok (.run ⟨query, w.input, w.parameters, w.constants⟩ w.pretty)

/-- The invocation that the words after the program's name ask for. -/
def Invocation.ofArguments : List String → Except UsageError Invocation
  | [] => .error .noCommand
  | "compile" :: words => do ofWords .compile (← Words.read .compile {} words)
  | "run" :: words => do ofWords .run (← Words.read .run {} words)
  | word :: _ => .error (.unknownCommand word)

/-- The text that an invocation prints. -/
def Invocation.output : Invocation → Except LineError String
  | .compile request shell pretty => do
    match ← executeCompile request with
    | none => return "Syntax is valid"
    | some command => return formatOutput command shell pretty
  | .run request pretty => return formatOutput (← executeRun request) false pretty

/-- The invocation reads its documents from the standard input. -/
def Invocation.needsInput : Invocation → Bool
  | .compile _ _ _ => false
  | .run request _ => request.input.isNone

/-- The invocation with documents read elsewhere. -/
def Invocation.withInput (text : String) : Invocation → Invocation
  | .compile request shell pretty => .compile request shell pretty
  | .run request pretty => .run { request with input := some text } pretty

end DocQuery
