import DocQuery.Query.Token
import DocQuery.Text.Name

/-!
# Expressions of the query language

The syntax of expressions, and the text in which messages quote them.  Printing puts parentheses
around every binary operation, so that its result can be read back.

## Main definitions

* `BinaryOperator`, `UnaryOperator` — the operators.
* `Expr` — an expression.
* `Expr.print` — the expression as text.
* `Expr.usesElement` — the expression refers to the array element it is evaluated for.
-/

namespace DocQuery

/-- An operator between two operands. -/
inductive BinaryOperator where
  | equal
  | notEqual
  | less
  | greater
  | lessEqual
  | greaterEqual
  | add
  | subtract
  | multiply
  | divide
  | modulo
  | bitAnd
  | bitOr
  | and
  | or
  /-- The left operand unless it is null. -/
  | coalesce
  deriving DecidableEq

namespace BinaryOperator

/-- The operator as it is written. -/
def symbol : BinaryOperator → String
  | .equal => "=="
  | .notEqual => "!="
  | .less => "<"
  | .greater => ">"
  | .lessEqual => "<="
  | .greaterEqual => ">="
  | .add => "+"
  | .subtract => "-"
  | .multiply => "*"
  | .divide => "/"
  | .modulo => "%"
  | .bitAnd => "&"
  | .bitOr => "|"
  | .and => "and"
  | .or => "or"
  | .coalesce => "??"

/-- The operator compares its operands. -/
def isComparison : BinaryOperator → Bool
  | .equal | .notEqual | .less | .greater | .lessEqual | .greaterEqual => true
  | _ => false

/-- The operator that says the same with its operands exchanged. -/
def swapped : BinaryOperator → BinaryOperator
  | .less => .greater
  | .greater => .less
  | .lessEqual => .greaterEqual
  | .greaterEqual => .lessEqual
  | op => op

end BinaryOperator

/-- An operator in front of one operand. -/
inductive UnaryOperator where
  | not
  | negate
  deriving DecidableEq

/-- The operator as it is written, with the space that a word needs. -/
def UnaryOperator.symbol : UnaryOperator → String
  | .not => "not "
  | .negate => "-"

/-- An expression. -/
inductive Expr where
  | float (x : FloatLiteral)
  | integer (n : Int64)
  | string (s : String)
  | boolean (b : Bool)
  | null
  /-- The document, `$`. -/
  | root
  /-- The array element at hand, `@`. -/
  | element
  /-- A parameter, `$name`. -/
  | param (name : String)
  /-- A named constant, `Type.Member`. -/
  | constant (type member : String)
  /-- The name of a field; it occurs only as the key of an access. -/
  | key (name : String)
  /-- A field or an index, `object.key` or `object[key]`. -/
  | access (object key : Expr)
  /-- A condition on the elements of an array, `?(condition)`; it occurs only as an assigned
  value. -/
  | filter (condition : Expr)
  | unary (op : UnaryOperator) (operand : Expr)
  | binary (op : BinaryOperator) (left right : Expr)
  /-- A method call, `object.method(args)`. -/
  | call (object : Expr) (method : String) (args : List Expr)
  | object (fields : List (String × Expr))
  | array (elements : List Expr)

namespace Expr

instance : Inhabited Expr := ⟨.null⟩

/-- A key after its object: with a dot if it is a name, quoted in brackets if it is another text,
and otherwise in brackets as it is printed. -/
def accessKey (index : Expr) (printed : List Char) : List Char :=
  match index with
  | .key name =>
    if Text.isName name then '.' :: name.toList
    else '[' :: (Text.quoted name).toList ++ [']']
  | _ => '[' :: printed ++ [']']

mutual

/-- The characters of an expression's text. -/
def chars : Expr → List Char
  | .float x => x.print.toList
  | .integer n => (toString n.toInt).toList
  | .string s => (Text.quoted s).toList
  | .boolean true => "true".toList
  | .boolean false => "false".toList
  | .null => "null".toList
  | .root => ['$']
  | .element => ['@']
  | .param name => '$' :: name.toList
  | .constant type member => type.toList ++ '.' :: member.toList
  | .key name => name.toList
  | .access base index => base.chars ++ accessKey index index.chars
  | .filter condition => ['?', '('] ++ condition.chars ++ [')']
  | .unary op operand => op.symbol.toList ++ operand.chars
  | .binary op left right =>
    '(' :: left.chars ++ ' ' :: op.symbol.toList ++ ' ' :: right.chars ++ [')']
  | .call base method args =>
    base.chars ++ '.' :: method.toList ++ '(' :: listChars args ++ [')']
  | .object fields => '\x7b' :: fieldChars fields ++ ['\x7d']
  | .array elements => '[' :: listChars elements ++ [']']

/-- Expressions with commas between them. -/
def listChars : List Expr → List Char
  | [] => []
  | [e] => e.chars
  | e :: es => e.chars ++ [',', ' '] ++ listChars es

/-- Entries of an object with commas between them. -/
def fieldChars : List (String × Expr) → List Char
  | [] => []
  | [(name, e)] => (Text.quoted name).toList ++ [':', ' '] ++ e.chars
  | (name, e) :: fields =>
    (Text.quoted name).toList ++ [':', ' '] ++ e.chars ++ [',', ' '] ++ fieldChars fields

end

/-- The expression as text. -/
def print (e : Expr) : String :=
  String.ofList e.chars

mutual

/-- The expression refers to the array element at hand.  The arguments of a method call bind an
element of their own. -/
def usesElement : Expr → Bool
  | .element => true
  | .access base index => base.usesElement || index.usesElement
  | .filter condition => condition.usesElement
  | .unary _ operand => operand.usesElement
  | .binary _ left right => left.usesElement || right.usesElement
  | .call base _ _ => base.usesElement
  | .object fields => anyFieldUsesElement fields
  | .array elements => anyUsesElement elements
  | _ => false

/-- One of the expressions refers to the element. -/
def anyUsesElement : List Expr → Bool
  | [] => false
  | e :: es => e.usesElement || anyUsesElement es

/-- One of the entries refers to the element. -/
def anyFieldUsesElement : List (String × Expr) → Bool
  | [] => false
  | (_, e) :: fields => e.usesElement || anyFieldUsesElement fields

end

end Expr

end DocQuery
