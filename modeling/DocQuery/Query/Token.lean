import DocQuery.Number.Layout
import DocQuery.Text.Quoted

/-!
# Tokens

The words and signs of the query language.

## Main definitions

* `FloatLiteral` — a number with a fraction as it is written in a query.
* `Token` — a word or sign, with its payload.
* `Token.kind` — the name of a kind of token.
* `Token.describe` — a token as messages show it.
-/

namespace DocQuery

/-- A number written with a fraction.  More digits than the finite numbers reach write an
infinity. -/
inductive FloatLiteral where
  | finite (x : Binary64)
  | infinite (negative : Bool)
  deriving DecidableEq

/-- The literal with the other sign. -/
def FloatLiteral.neg : FloatLiteral → FloatLiteral
  | .finite x => .finite x.neg
  | .infinite negative => .infinite !negative

/-- The literal as messages show it. -/
def FloatLiteral.print : FloatLiteral → String
  | .finite x => x.print messageLayout
  | .infinite false => "inf"
  | .infinite true => "-inf"

/-- A word or sign of the query language. -/
inductive Token where
  /-- A number with a fraction. -/
  | float (x : FloatLiteral)
  | integer (n : Int64)
  | string (s : String)
  | boolean (b : Bool)
  | null
  /-- A parameter, `$name`. -/
  | param (name : String)
  /-- A name that is no keyword. -/
  | identifier (name : String)
  /-- The document, `$`. -/
  | dollar
  /-- The element of an array, `@`. -/
  | at
  | question
  | tilde
  | exclamation
  /-- The sign of an assignment, `:=`. -/
  | colonEqual
  /-- The sign between statements, `|>`. -/
  | pipe
  | eqEq
  | notEq
  | lt
  | gt
  | ltEq
  | gtEq
  | plus
  | minus
  | star
  | slash
  | percent
  | ampersand
  | bar
  | questionQuestion
  | and
  | or
  | not
  | lBracket
  | rBracket
  | lParen
  | rParen
  | lBrace
  | rBrace
  | dot
  | comma
  | colon
  /-- The end of the text. -/
  | eof
  deriving DecidableEq

namespace Token

/-- The token is an integer. -/
def isInteger : Token → Bool
  | .integer _ => true
  | _ => false

/-- That a token is no integer is seen from the token; there is no need to try all integers. -/
instance (token : Token) : Decidable (∀ n, token = .integer n → False) :=
  decidable_of_iff (token.isInteger = false) (by cases token <;> simp [isInteger])

/-- The name of a kind of token. -/
def kind : Token → String
  | .float _ => "Float"
  | .integer _ => "Integer"
  | .string _ => "String"
  | .boolean _ => "Boolean"
  | .null => "Null"
  | .param _ => "Param"
  | .identifier _ => "Identifier"
  | .dollar => "Dollar"
  | .at => "At"
  | .question => "Question"
  | .tilde => "Tilde"
  | .exclamation => "Exclamation"
  | .colonEqual => "ColonEqual"
  | .pipe => "Pipe"
  | .eqEq => "EqEq"
  | .notEq => "NotEq"
  | .lt => "Lt"
  | .gt => "Gt"
  | .ltEq => "LtEq"
  | .gtEq => "GtEq"
  | .plus => "Plus"
  | .minus => "Minus"
  | .star => "Star"
  | .slash => "Slash"
  | .percent => "Percent"
  | .ampersand => "Ampersand"
  | .bar => "Bar"
  | .questionQuestion => "QuestionQuestion"
  | .and => "And"
  | .or => "Or"
  | .not => "Not"
  | .lBracket => "LBracket"
  | .rBracket => "RBracket"
  | .lParen => "LParen"
  | .rParen => "RParen"
  | .lBrace => "LBrace"
  | .rBrace => "RBrace"
  | .dot => "Dot"
  | .comma => "Comma"
  | .colon => "Colon"
  | .eof => "Eof"

/-- The token as messages show it: its kind, with the payload in parentheses. -/
def describe (token : Token) : String :=
  match token with
  | .float x => s!"Float({x.print})"
  | .integer n => s!"Integer({n.toInt})"
  | .string s => s!"String({Text.quoted s})"
  | .boolean b => s!"Boolean({b})"
  | .param name => s!"Param({Text.quoted name})"
  | .identifier name => s!"Identifier({Text.quoted name})"
  | other => other.kind

end Token

end DocQuery
