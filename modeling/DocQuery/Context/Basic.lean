import DocQuery.Context.Table
import DocQuery.Text.Blank
import DocQuery.Text.Name
import DocQuery.Value.Json

/-!
# Compile-time context

What a query may use without looking at a document: named integer constants such as the members of
an enumeration, and parameters bound to values.  Both can be defined by a line of text.

## Main definitions

* `ConstantName`, `Context` — constants and parameters.
* `DefinitionError` — why a line defines nothing, with its message.
* `Context.defineConstant`, `Context.defineParameter` — a context with a line added to it.
-/

namespace DocQuery

/-- The name of a constant, `type.member`. -/
structure ConstantName where
  type : String
  member : String
  deriving DecidableEq

/-- Constants are ordered by type and then by member. -/
instance : Ord ConstantName where
  compare a b := (compare a.type b.type).then (compare a.member b.member)

/-- What a query may use without looking at a document. -/
structure Context where
  constants : Table ConstantName Int64
  parameters : Table String Value

namespace Context

/-- Nothing is known. -/
def empty : Context := ⟨.empty, .empty⟩

/-- The value of a constant. -/
def constant? (context : Context) (type member : String) : Option Int64 :=
  context.constants.get? ⟨type, member⟩

/-- The value of a parameter. -/
def parameter? (context : Context) (name : String) : Option Value :=
  context.parameters.get? name

/-- Binds a parameter. -/
def bind (context : Context) (name : String) (value : Value) : Context :=
  { context with parameters := context.parameters.insert name value }

end Context

/-- What is wrong with the definition of a constant. -/
inductive ConstantFault where
  | noValue
  | noMember
  | notNames
  | notInteger
  deriving DecidableEq

/-- What is wrong with the definition of a parameter. -/
inductive ParameterFault where
  | noValue
  | notName (name : String)
  deriving DecidableEq

/-- Why a line of text defines nothing. -/
inductive DefinitionError where
  | constant (text : String) (fault : ConstantFault)
  | parameter (text : String) (fault : ParameterFault)
  deriving DecidableEq

/-- The wording of a fault. -/
def ConstantFault.message : ConstantFault → String
  | .noValue => "expected Type.Member=value"
  | .noMember => "expected Type.Member before '='"
  | .notNames => "type and member must be identifiers"
  | .notInteger => "value must be an integer"

/-- The wording of a fault. -/
def ParameterFault.message : ParameterFault → String
  | .noValue => "expected name=value"
  | .notName name => s!"'{name}' is not a valid parameter name"

/-- The wording of an error. -/
def DefinitionError.message : DefinitionError → String
  | .constant text fault => s!"invalid constant definition '{text}': {fault.message}"
  | .parameter text fault => s!"invalid parameter definition '{text}': {fault.message}"

namespace Context

/-- The characters without blanks at either end. -/
def trimmed (cs : List Char) : List Char :=
  Text.trimEnd (Text.trimStart cs)

/-- The name and value of a constant defined by a line `Type.Member=integer`. -/
def readConstant (text : String) : Except ConstantFault (ConstantName × Int64) := do
  let some (name, value) := Text.splitOnce '=' text.toList | throw .noValue
  let some (type, member) := Text.splitOnce '.' (trimmed name) | throw .noMember
  unless Text.isNameChars type && Text.isNameChars member do throw .notNames
  let some n := signedOf? (trimmed value) | throw .notInteger
  return (⟨String.ofList type, String.ofList member⟩, n)

/-- Adds the constant defined by a line. -/
def defineConstant (context : Context) (text : String) : Except DefinitionError Context :=
  match readConstant text with
  | .ok (name, n) => .ok { context with constants := context.constants.insert name n }
  | .error fault => .error (.constant text fault)

/-- The name and value of a parameter defined by a line `name=value`.  The name may begin with
dollar signs, which do not belong to it.  A value that is no JSON text is a string. -/
def readParameter (text : String) : Except ParameterFault (String × Value) := do
  let some (name, value) := Text.splitOnce '=' text.toList | throw .noValue
  let name := (trimmed name).dropWhile (· == '$')
  unless Text.isNameChars name do throw (.notName (String.ofList name))
  let value := String.ofList (trimmed value)
  return (String.ofList name, (ofJson? value).getD (.string value))

/-- Binds the parameter defined by a line. -/
def defineParameter (context : Context) (text : String) : Except DefinitionError Context :=
  match readParameter text with
  | .ok (name, value) => .ok (context.bind name value)
  | .error fault => .error (.parameter text fault)

/-- The context defined by lines, constants before parameters. -/
def define (parameters constants : List String) : Except DefinitionError Context := do
  parameters.foldlM defineParameter (← constants.foldlM defineConstant empty)

end Context

end DocQuery
