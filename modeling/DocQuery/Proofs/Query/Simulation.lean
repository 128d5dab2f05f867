import DocQuery.Query.Parser

/-!
# Inputs that parsers do not tell apart

Parsers are built from a few operations on the tokens that are left.  A relation between inputs
that these operations keep is therefore kept by every parser: on related inputs it has the same
result and leaves related inputs, or it fails on both.  The relation says what parsers do not see,
such as the positions of tokens; between an input and itself it is an invariant.

## Main definitions

* `Simulation` — a relation between inputs, with one between errors, that the operations keep.
* `Alike` — two runs of a parser with related outcomes.
* `Parser.Uniform` — a parser keeps every such relation.

## Main results

* `Uniform.bind`, `Uniform.peek`, `Uniform.advance`, … — one rule for every way in which parsers
  are built.
* `Parser.uniform_expression`, `Parser.uniform_query` — **the parsers of whole texts are uniform.**
-/

namespace DocQuery

variable {α β : Type}

/-- Two runs of a parser have the same result and leave related inputs, or both fail with related
errors. -/
def Alike (r : Input → Input → Prop) (e : ParseError → ParseError → Prop) :
    Except ParseError (α × Input) → Except ParseError (α × Input) → Prop
  | .ok (a, i), .ok (b, j) => a = b ∧ r i j
  | .error x, .error y => e x y
  | _, _ => False

/-- A relation between inputs, and one between errors, that the operations on tokens keep. -/
structure Simulation (r : Input → Input → Prop) (e : ParseError → ParseError → Prop) : Prop where
  token : ∀ {i j}, r i j → i.current.token = j.current.token
  length : ∀ {i j}, r i j → i.following.length = j.following.length
  advance : ∀ {i j}, r i j → Alike r e (Parser.advance.run i) (Parser.advance.run j)
  unexpected : ∀ {i j}, r i j → e (.unexpected i.current.token i.current.start)
    (.unexpected j.current.token j.current.start)
  expected : ∀ {i j}, r i j → ∀ what, e (.expected what i.current.token i.current.start)
    (.expected what j.current.token j.current.start)
  bareIdentifier : ∀ name, e (.bareIdentifier name) (.bareIdentifier name)
  unknownStage : ∀ name, e (.unknownStage name) (.unknownStage name)

namespace Parser

/-- The parser keeps every relation that the operations on tokens keep. -/
def Uniform (p : Parser α) : Prop :=
  ∀ r e, Simulation r e → ∀ i j, r i j → Alike r e (p.run i) (p.run j)

/-! ### Rules -/

namespace Uniform

theorem pure (a : α) : (pure a : Parser α).Uniform :=
  fun _ _ _ _ _ hij => ⟨rfl, hij⟩

theorem bind {p : Parser α} {f : α → Parser β} (hp : p.Uniform) (hf : ∀ a, (f a).Uniform) :
    (p >>= f).Uniform := by
  intro r e h i j hij
  have hrun := hp r e h i j hij
  rw [StateT.run_bind, StateT.run_bind]
  cases hi : p.run i with
  | error x =>
    cases hj : p.run j with
    | error y => rwa [hi, hj] at hrun
    | ok y => rw [hi, hj] at hrun; exact hrun.elim
  | ok x =>
    cases hj : p.run j with
    | error y => rw [hi, hj] at hrun; exact hrun.elim
    | ok y =>
      rw [hi, hj] at hrun
      obtain ⟨a, i'⟩ := x
      obtain ⟨b, j'⟩ := y
      obtain ⟨rfl, hij'⟩ := hrun
      exact hf a r e h i' j' hij'

theorem bareIdentifier (name : String) : (throw (.bareIdentifier name) : Parser α).Uniform :=
  fun _ _ h _ _ _ => h.bareIdentifier name

theorem unknownStage (name : String) : (throw (.unknownStage name) : Parser α).Uniform :=
  fun _ _ h _ _ _ => h.unknownStage name

theorem unexpected : (unexpected : Parser α).Uniform :=
  fun _ _ h _ _ hij => h.unexpected hij

theorem missing (what : String) : (missing what : Parser α).Uniform :=
  fun _ _ h _ _ hij => h.expected hij what

theorem peek : peek.Uniform :=
  fun _ _ h _ _ hij => ⟨h.token hij, hij⟩

theorem remaining : remaining.Uniform :=
  fun _ _ h _ _ hij => ⟨congrArg (· + 2) (h.length hij), hij⟩

theorem advance : advance.Uniform :=
  fun _ _ h _ _ hij => h.advance hij

theorem ite {c : Prop} [Decidable c] {p q : Parser α} (hp : p.Uniform) (hq : q.Uniform) :
    (if c then p else q).Uniform := by
  split
  · exact hp
  · exact hq

theorem expect (token : Token) : (expect token).Uniform :=
  .bind .peek fun _ => .ite .advance (.missing _)

theorem identifier (what : String) : (identifier what).Uniform := by
  refine .bind .peek fun token => ?_
  split
  · exact .bind .advance fun _ => .pure _
  · exact .missing what

end Uniform

/-! ### Lists -/

theorem uniform_entriesUntil {entry : Parser α} (hentry : entry.Uniform) (close : Token)
    (fuel : Nat) : (entriesUntil close entry fuel).Uniform := by
  induction fuel with
  | zero => exact .pure []
  | succ fuel ih =>
    refine .bind .peek fun _ => .ite (.pure []) (.bind hentry fun first => .bind .peek fun _ => ?_)
    exact .ite (.bind ih fun _ => .pure _) (.bind (.expect .comma) fun _ => .bind ih fun _ => .pure _)

theorem uniform_entries {entry : Parser α} (hentry : entry.Uniform) (close : Token) :
    (entries close entry).Uniform :=
  .bind .remaining fun fuel => .bind (uniform_entriesUntil hentry close fuel) fun _ =>
    .bind (.expect close) fun _ => .pure _

/-! ### Expressions -/

section Nested

variable {nested : Parser Expr} (hnested : nested.Uniform)

include hnested

theorem uniform_field : (field nested).Uniform := by
  refine .bind .peek fun token => ?_
  split
  · exact .bind .advance fun _ => .bind (.expect .colon) fun _ => .bind hnested fun _ => .pure _
  · exact .bind .advance fun _ => .bind (.expect .colon) fun _ => .bind hnested fun _ => .pure _
  · exact .missing _

theorem uniform_primary : (primary nested).Uniform := by
  have hliteral (e : Expr) : (do advance; return e : Parser Expr).Uniform :=
    .bind .advance fun _ => .pure e
  refine .bind .peek fun token => ?_
  split
  · exact hliteral _
  · exact hliteral _
  · exact hliteral _
  · exact hliteral _
  · exact hliteral _
  · exact hliteral _
  · exact hliteral _
  · exact hliteral _
  · next type =>
    refine .bind .advance fun _ => .bind .peek fun _ => ?_
    have hmember : (do advance; return .constant type (← identifier "enum member after '.'") :
        Parser Expr).Uniform :=
      .bind .advance fun _ => .bind (.identifier _) fun _ => .pure _
    exact .ite hmember (.bind (.bareIdentifier _) fun _ => hmember)
  · exact .bind .advance fun _ => .bind hnested fun e => .bind (.expect .rParen) fun _ => .pure e
  · exact .bind .advance fun _ => .bind (uniform_entries (uniform_field hnested) _) fun _ => .pure _
  · exact .bind .advance fun _ => .bind (uniform_entries hnested _) fun _ => .pure _
  · exact .unexpected

theorem uniform_bracketKey : (bracketKey nested).Uniform := by
  refine .bind .peek fun token => ?_
  split
  · exact .bind .advance fun _ => .pure _
  · exact .bind .advance fun _ => .pure _
  · exact hnested

theorem uniform_suffixes (fuel : Nat) (object : Expr) : (suffixes nested fuel object).Uniform := by
  induction fuel generalizing object with
  | zero => exact .pure object
  | succ fuel ih =>
    refine .bind .peek fun token => ?_
    split
    · exact .bind .advance fun _ => .bind (uniform_bracketKey hnested) fun _ =>
        .bind (.expect .rBracket) fun _ => ih _
    · refine .bind .advance fun _ => .bind (.identifier _) fun name => .bind .peek fun _ => ?_
      exact .ite (.bind .advance fun _ => .bind (uniform_entries hnested .rParen) fun _ => ih _)
        (ih _)
    · exact .pure object

theorem uniform_access : (access nested).Uniform :=
  .bind (uniform_primary hnested) fun object => .bind .remaining fun fuel =>
    uniform_suffixes hnested fuel object

theorem uniform_unary (fuel : Nat) : (unary nested fuel).Uniform := by
  induction fuel with
  | zero => exact .unexpected
  | succ fuel ih =>
    refine .bind .peek fun token => ?_
    split
    · exact .bind .advance fun _ => .bind ih fun _ => .pure _
    · exact .bind .advance fun _ => .bind ih fun _ => .pure _
    · exact uniform_access hnested

end Nested

section Levels

variable {operand : Parser Expr} (hoperand : operand.Uniform)

include hoperand

theorem uniform_operations (operator? : Token → Option BinaryOperator) (fuel : Nat) (left : Expr) :
    (operations operand operator? fuel left).Uniform := by
  induction fuel generalizing left with
  | zero => exact .pure left
  | succ fuel ih =>
    refine .bind .peek fun token => ?_
    split
    · exact .pure left
    · exact .bind .advance fun _ => .bind hoperand fun _ => ih _

theorem uniform_leftAssociative (operator? : Token → Option BinaryOperator) :
    (leftAssociative operand operator?).Uniform :=
  .bind hoperand fun first => .bind .remaining fun fuel =>
    uniform_operations hoperand operator? fuel first

end Levels

section Operators

variable {nested : Parser Expr} (hnested : nested.Uniform)

include hnested

theorem uniform_operand : (operand nested).Uniform := by
  have hfactor : (do unary nested (← remaining) : Parser Expr).Uniform :=
    .bind .remaining fun fuel => uniform_unary hnested fuel
  have hterm := uniform_leftAssociative hfactor multiplicative?
  have hsum := uniform_leftAssociative hterm additive?
  have hconjunct := uniform_leftAssociative hsum bitAnd?
  have hdisjunct := uniform_leftAssociative hconjunct bitOr?
  exact uniform_leftAssociative hdisjunct coalesce?

theorem uniform_comparison : (comparison nested).Uniform := by
  refine .bind (uniform_operand hnested) fun left => .bind .peek fun token => ?_
  split
  · exact .pure left
  · exact .bind .advance fun _ => .bind (uniform_operand hnested) fun _ => .pure _

theorem uniform_disjunction : (disjunction nested).Uniform :=
  uniform_leftAssociative (uniform_leftAssociative (uniform_comparison hnested) and?) or?

end Operators

theorem uniform_expressionWithin (depth : Nat) : (expressionWithin depth).Uniform := by
  induction depth with
  | zero => exact .unexpected
  | succ depth ih => exact uniform_disjunction ih

theorem uniform_expression : expression.Uniform :=
  .bind .remaining fun depth => uniform_expressionWithin depth

/-! ### Statements -/

theorem uniform_target : target.Uniform :=
  uniform_access uniform_expression

theorem uniform_parenthesized : parenthesized.Uniform :=
  .bind (.expect .lParen) fun _ => .bind uniform_expression fun e =>
    .bind (.expect .rParen) fun _ => .pure e

theorem uniform_assignment : assignment.Uniform := by
  refine .bind uniform_target fun path => .bind (.expect .colonEqual) fun _ => .bind .peek fun _ => ?_
  exact .ite (.bind .advance fun _ => .bind uniform_parenthesized fun _ => .pure _)
    (.bind uniform_expression fun _ => .pure _)

theorem uniform_assignments (fuel : Nat) : (assignments fuel).Uniform := by
  induction fuel with
  | zero => exact .pure []
  | succ fuel ih =>
    refine .bind uniform_assignment fun first => .bind .peek fun _ => ?_
    exact .ite (.bind .advance fun _ => .bind ih fun _ => .pure _) (.pure _)

theorem uniform_integerArgument : integerArgument.Uniform := by
  refine .bind .peek fun token => ?_
  split
  · exact .bind .advance fun _ => .pure _
  · refine .bind .advance fun _ => .bind .peek fun token => ?_
    split
    · exact .bind .advance fun _ => .pure _
    · exact .unexpected
  · exact .missing _

theorem uniform_keepEmptyArgument : keepEmptyArgument.Uniform := by
  refine .bind .peek fun _ => .ite (.bind .advance fun _ => .bind .peek fun token => ?_) (.pure false)
  split
  · exact .bind .advance fun _ => .pure _
  · exact .missing _

theorem uniform_sortKey : sortKey.Uniform := by
  refine .bind uniform_target fun key => .bind .peek fun token => ?_
  split
  · exact .bind .advance fun _ => .pure _
  · exact .bind .advance fun _ => .pure _
  · exact .pure _

theorem uniform_keywordStatement (keyword : String) : (keywordStatement keyword).Uniform := by
  unfold keywordStatement
  split
  · exact .bind uniform_integerArgument fun _ => .pure _
  · exact .bind uniform_integerArgument fun _ => .pure _
  · exact .bind uniform_target fun _ => .bind uniform_keepEmptyArgument fun _ => .pure _
  · refine .bind .peek fun token => ?_
    split
    · exact .bind .advance fun _ => .pure _
    · exact .missing _
  · exact .bind .remaining fun fuel => .bind (uniform_entriesUntil uniform_sortKey .rParen fuel)
      fun _ => .pure _
  · exact .bind uniform_expression fun _ => .bind (.expect .comma) fun _ =>
      .bind (.expect .lBrace) fun _ =>
        .bind (uniform_entries (uniform_field uniform_expression) .rBrace) fun _ => .pure _
  · exact .unknownStage _

theorem uniform_statement : statement.Uniform := by
  refine .bind .peek fun token => ?_
  split
  · exact .bind .advance fun _ => .bind uniform_parenthesized fun _ => .pure _
  · exact .bind .advance fun _ => .bind (.expect .lParen) fun _ => .bind .remaining fun fuel =>
      .bind (uniform_assignments fuel) fun _ => .bind (.expect .rParen) fun _ => .pure _
  · exact .bind .advance fun _ => .bind uniform_parenthesized fun _ => .pure _
  · exact .bind .advance fun _ => .bind (.expect .lParen) fun _ =>
      .bind (uniform_keywordStatement _) fun _ => .bind (.expect .rParen) fun _ => .pure _
  · exact .unexpected

theorem uniform_statements (fuel : Nat) : (statements fuel).Uniform := by
  induction fuel with
  | zero => exact .pure []
  | succ fuel ih =>
    refine .bind .peek fun _ => .ite (.bind .advance fun _ => ?_) (.pure [])
    exact .bind uniform_statement fun _ => .bind ih fun _ => .pure _

theorem uniform_query : query.Uniform :=
  .bind (.expect .dollar) fun _ => .bind .remaining fun fuel =>
    .bind (uniform_statements fuel) fun _ => .pure _

end Parser

end DocQuery
