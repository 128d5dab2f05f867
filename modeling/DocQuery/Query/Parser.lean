import DocQuery.Query.Lexer
import DocQuery.Query.Statement
import DocQuery.Text.Split

/-!
# From tokens to syntax

The parser reads tokens one at a time and looks only at the current one.  Each level of the grammar
is a parser built from the one below it, from primary expressions up to disjunctions; brackets
lead back from the lowest level to the highest.

A token that cannot be read is an error as soon as the parser reaches it, and not before, so that a
mistake in the syntax that comes first is the one that is reported.

## Main definitions

* `ParseError` — why tokens are not the syntax of anything, with its message.
* `Input`, `Parser` — the tokens that are left, and functions that consume some.
* `Parser.expression`, `Parser.query` — the two start symbols.
* `Expr.parse`, `Query.parse` — the syntax of a whole text.
* `isQueryText` — a text is a query and not a lone condition.
-/

namespace DocQuery

/-- Why a text has no syntax. -/
inductive ParseError where
  | lex (e : LexError)
  /-- Another token than the only one that could stand here. -/
  | expected (what : String) (found : Token) (position : Nat)
  /-- A token that cannot stand here. -/
  | unexpected (found : Token) (position : Nat)
  /-- A name that is neither a field of something nor the type of a constant. -/
  | bareIdentifier (name : String)
  /-- A name in the place of a statement's keyword. -/
  | unknownStage (name : String)
  deriving DecidableEq

/-- The wording of an error. -/
def ParseError.message : ParseError → String
  | .lex e => e.message
  | .expected what found position =>
    s!"expected {what}, got {found.describe} at position {position}"
  | .unexpected found position => s!"unexpected token {found.describe} at position {position}"
  | .bareIdentifier name =>
    s!"bare identifier '{name}' must be part of an access path (`$.{name}`) or an enum constant "
      ++ s!"(`Type.{name}`)"
  | .unknownStage name => s!"unknown stage keyword '{name}'"

/-- What is left to parse: the current token, those after it, and how the text ends. -/
structure Input where
  current : Lexeme
  following : List Lexeme
  failure : Option LexError

/-- The input for the tokens of a text. -/
def Input.ofScan (scan : Scan) : Except ParseError Input :=
  match scan.lexemes, scan.failure with
  | first :: following, failure => .ok ⟨first, following, failure⟩
  | [], some e => .error (.lex e)
  | [], none => .ok ⟨⟨0, .eof, 0⟩, [], none⟩

/-- A function that consumes tokens and yields a result, or fails. -/
abbrev Parser (α : Type) := StateT Input (Except ParseError) α

namespace Parser

/-! ### Single tokens -/

/-- The current token. -/
def peek : Parser Token := do
  return (← get).current.token

/-- Fails at the current token. -/
def unexpected {α : Type} : Parser α := do
  let input ← get
  throw (.unexpected input.current.token input.current.start)

/-- Fails at the current token, saying what should stand there. -/
def missing {α : Type} (what : String) : Parser α := do
  let input ← get
  throw (.expected what input.current.token input.current.start)

/-- Goes on to the next token.  The end of the text is never passed. -/
def advance : Parser Unit := do
  let input ← get
  match input.following, input.failure with
  | next :: following, _ => set (⟨next, following, input.failure⟩ : Input)
  | [], some e => throw (.lex e)
  | [], none => pure ()

/-- Consumes a token that must stand here. -/
def expect (token : Token) : Parser Unit := do
  if (← peek) = token then advance else missing token.describe

/-- Consumes a name. -/
def identifier (what : String) : Parser String := do
  match ← peek with
  | .identifier name => advance; return name
  | _ => missing what

/-- More than the number of tokens that are left, which bounds every loop and every nesting. -/
def remaining : Parser Nat := do
  return (← get).following.length + 2

/-! ### Lists -/

/-- Entries up to a closing token, which stays: commas stand between them and may stand after the
last one.  The fuel bounds their number. -/
def entriesUntil {α : Type} (close : Token) (entry : Parser α) : Nat → Parser (List α)
  | 0 => return []
  | fuel + 1 => do
    if (← peek) = close then return []
    let first ← entry
    unless (← peek) = close do expect .comma
    let others ← entriesUntil close entry fuel
    return first :: others

/-- Entries and their closing token. -/
def entries {α : Type} (close : Token) (entry : Parser α) : Parser (List α) := do
  let found ← entriesUntil close entry (← remaining)
  expect close
  return found

/-! ### Expressions

`nested` is the parser for expressions inside brackets. -/

/-- An entry of an object, `key: value`. -/
def field (nested : Parser Expr) : Parser (String × Expr) := do
  match ← peek with
  | .string key | .identifier key =>
    advance
    expect .colon
    return (key, ← nested)
  | _ => missing "string or identifier as object key"

/-- A literal, a reference, a constant, or something in brackets. -/
def primary (nested : Parser Expr) : Parser Expr := do
  match ← peek with
  | .float x => advance; return .float x
  | .integer n => advance; return .integer n
  | .string s => advance; return .string s
  | .boolean b => advance; return .boolean b
  | .null => advance; return .null
  | .dollar => advance; return .root
  | .at => advance; return .element
  | .param name => advance; return .param name
  | .identifier type =>
    advance
    unless (← peek) = .dot do throw (.bareIdentifier type)
    advance
    return .constant type (← identifier "enum member after '.'")
  | .lParen =>
    advance
    let e ← nested
    expect .rParen
    return e
  | .lBrace => advance; return .object (← entries .rBrace (field nested))
  | .lBracket => advance; return .array (← entries .rBracket nested)
  | _ => unexpected

/-- What stands between the brackets of an access: a name, or an expression. -/
def bracketKey (nested : Parser Expr) : Parser Expr := do
  match ← peek with
  | .identifier name | .string name => advance; return .key name
  | _ => nested

/-- Accesses and method calls on `object`; the fuel bounds their number. -/
def suffixes (nested : Parser Expr) : Nat → Expr → Parser Expr
  | 0, object => return object
  | fuel + 1, object => do
    match ← peek with
    | .lBracket =>
      advance
      let key ← bracketKey nested
      expect .rBracket
      suffixes nested fuel (.access object key)
    | .dot =>
      advance
      let name ← identifier "identifier after '.'"
      if (← peek) = .lParen then
        advance
        suffixes nested fuel (.call object name (← entries .rParen nested))
      else
        suffixes nested fuel (.access object (.key name))
    | _ => return object

/-- A primary expression with its accesses and method calls. -/
def access (nested : Parser Expr) : Parser Expr := do
  let object ← primary nested
  suffixes nested (← remaining) object

/-- An operator in front of its operand.  A negated number is a number. -/
def applyUnary (op : UnaryOperator) (operand : Expr) : Expr :=
  match op, operand with
  | .negate, .integer n => .integer (-n)
  | .negate, .float x => .float x.neg
  | op, operand => .unary op operand

/-- Operators in front of an access; the fuel bounds their number. -/
def unary (nested : Parser Expr) : Nat → Parser Expr
  | 0 => unexpected
  | fuel + 1 => do
    match ← peek with
    | .not => advance; return applyUnary .not (← unary nested fuel)
    | .minus => advance; return applyUnary .negate (← unary nested fuel)
    | _ => access nested

/-- Operations of one level that follow `left`, from left to right; the fuel bounds their
number. -/
def operations (operand : Parser Expr) (operator? : Token → Option BinaryOperator) :
    Nat → Expr → Parser Expr
  | 0, left => return left
  | fuel + 1, left => do
    match operator? (← peek) with
    | none => return left
    | some op =>
      advance
      let right ← operand
      operations operand operator? fuel (.binary op left right)

/-- Operands with operators of one level between them. -/
def leftAssociative (operand : Parser Expr) (operator? : Token → Option BinaryOperator) :
    Parser Expr := do
  let first ← operand
  operations operand operator? (← remaining) first

/-- The operators of multiplication. -/
def multiplicative? : Token → Option BinaryOperator
  | .star => some .multiply
  | .slash => some .divide
  | .percent => some .modulo
  | _ => none

/-- The operators of addition. -/
def additive? : Token → Option BinaryOperator
  | .plus => some .add
  | .minus => some .subtract
  | _ => none

/-- The operator of bitwise conjunction. -/
def bitAnd? : Token → Option BinaryOperator
  | .ampersand => some .bitAnd
  | _ => none

/-- The operator of bitwise disjunction. -/
def bitOr? : Token → Option BinaryOperator
  | .bar => some .bitOr
  | _ => none

/-- The operator that replaces null. -/
def coalesce? : Token → Option BinaryOperator
  | .questionQuestion => some .coalesce
  | _ => none

/-- The operators of comparison. -/
def comparison? : Token → Option BinaryOperator
  | .eqEq => some .equal
  | .notEq => some .notEqual
  | .lt => some .less
  | .gt => some .greater
  | .ltEq => some .lessEqual
  | .gtEq => some .greaterEqual
  | _ => none

/-- The operator of conjunction. -/
def and? : Token → Option BinaryOperator
  | .and => some .and
  | _ => none

/-- The operator of disjunction. -/
def or? : Token → Option BinaryOperator
  | .or => some .or
  | _ => none

/-- Everything that binds more tightly than a comparison. -/
def operand (nested : Parser Expr) : Parser Expr :=
  let factor : Parser Expr := do unary nested (← remaining)
  let term := leftAssociative factor multiplicative?
  let sum := leftAssociative term additive?
  let conjunct := leftAssociative sum bitAnd?
  let disjunct := leftAssociative conjunct bitOr?
  leftAssociative disjunct coalesce?

/-- At most one comparison of two operands. -/
def comparison (nested : Parser Expr) : Parser Expr := do
  let left ← operand nested
  match comparison? (← peek) with
  | none => return left
  | some op =>
    advance
    return .binary op left (← operand nested)

/-- Comparisons with `and` between them, and those with `or` between them. -/
def disjunction (nested : Parser Expr) : Parser Expr :=
  leftAssociative (leftAssociative (comparison nested) and?) or?

/-- An expression with at most the given depth of brackets. -/
def expressionWithin : (depth : Nat) → Parser Expr
  | 0 => unexpected
  | depth + 1 => disjunction (expressionWithin depth)

/-- An expression. -/
def expression : Parser Expr := do
  expressionWithin (← remaining)

/-! ### Statements -/

/-- A field path, or what else can stand in its place. -/
def target : Parser Expr :=
  access expression

/-- An expression in parentheses. -/
def parenthesized : Parser Expr := do
  expect .lParen
  let e ← expression
  expect .rParen
  return e

/-- An assignment, `target := value`. -/
def assignment : Parser (Expr × Expr) := do
  let path ← target
  expect .colonEqual
  if (← peek) = .question then
    advance
    return (path, .filter (← parenthesized))
  else
    return (path, ← expression)

/-- Assignments with commas between them; the fuel bounds their number. -/
def assignments : Nat → Parser (List (Expr × Expr))
  | 0 => return []
  | fuel + 1 => do
    let first ← assignment
    if (← peek) = .comma then
      advance
      return first :: (← assignments fuel)
    else
      return [first]

/-- An integer with an optional minus sign. -/
def integerArgument : Parser Int64 := do
  match ← peek with
  | .integer n => advance; return n
  | .minus =>
    advance
    match ← peek with
    | .integer n => advance; return -n
    | _ => unexpected
  | _ => missing "integer"

/-- The flag of an unwinding, after an optional comma. -/
def keepEmptyArgument : Parser Bool := do
  if (← peek) = .comma then
    advance
    match ← peek with
    | .boolean b => advance; return b
    | _ => missing "boolean"
  else
    return false

/-- A key of a sort with its direction, ascending unless it says otherwise. -/
def sortKey : Parser (Expr × Direction) := do
  let key ← target
  match ← peek with
  | .identifier "desc" => advance; return (key, .descending)
  | .identifier "asc" => advance; return (key, .ascending)
  | _ => return (key, .ascending)

/-- The arguments of the statement with the given keyword. -/
def keywordStatement (keyword : String) : Parser Statement := do
  match keyword with
  | "skip" => return .skip (← integerArgument)
  | "limit" => return .limit (← integerArgument)
  | "unwind" =>
    let path ← target
    return .unwind path (← keepEmptyArgument)
  | "count" =>
    match ← peek with
    | .string name => advance; return .count name
    | _ => missing "output field name string"
  | "sort" => return .sort (← entriesUntil .rParen sortKey (← remaining))
  | "group" =>
    let key ← expression
    expect .comma
    expect .lBrace
    return .group key (← entries .rBrace (field expression))
  | other => throw (.unknownStage other)

/-- A statement. -/
def statement : Parser Statement := do
  match ← peek with
  | .question => advance; return .filter (← parenthesized)
  | .tilde =>
    advance
    expect .lParen
    let found ← assignments (← remaining)
    expect .rParen
    return .transform found
  | .exclamation => advance; return .output (← parenthesized)
  | .identifier keyword =>
    advance
    expect .lParen
    let found ← keywordStatement keyword
    expect .rParen
    return found
  | _ => unexpected

/-- Statements, each after its sign; the fuel bounds their number. -/
def statements : Nat → Parser (List Statement)
  | 0 => return []
  | fuel + 1 => do
    if (← peek) = .pipe then
      advance
      let first ← statement
      return first :: (← statements fuel)
    else
      return []

/-- A query. -/
def query : Parser Query := do
  expect .dollar
  return ⟨← statements (← remaining)⟩

/-- What a parser yields for a whole text. -/
def parseText {α : Type} (parser : Parser α) (text : String) : Except ParseError α := do
  let input ← Input.ofScan (scan text)
  let (result, _) ← (do
    let result ← parser
    expect .eof
    return result : Parser α).run input
  return result

end Parser

/-- The expression that a text writes. -/
def Expr.parse (text : String) : Except ParseError Expr :=
  Parser.parseText Parser.expression text

/-- The query that a text writes. -/
def Query.parse (text : String) : Except ParseError Query :=
  Parser.parseText Parser.query text

/-- A text is a query if it begins with the document sign and contains a statement sign; any other
text is a lone condition. -/
def isQueryText (text : String) : Bool :=
  (Text.trimStart text.toList).head? == some '$' && Text.occursIn ['|', '>'] text.toList

end DocQuery
