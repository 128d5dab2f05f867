import DocQuery.Proofs.Query.Position
import DocQuery.Proofs.Query.ReadBack

/-!
# What parsers accept

The lexer writes no number with a sign and no name that is not one, and from such tokens parsers
make expressions of a special kind: a minus sign never stands in front of a number, and no integer
is the least one of 64 bits, so that the integers that are negated have a negation.  This holds for
all that parsers make on their way through a text, even if they fail in the end.

## Main definitions

* `Token.Written` — the lexer can have made the token.
* `Negatable` — the integer is not the least one, and its negation is exact.
* `Expr.Accepted`, `Statement.Accepted` — what parsers make.
* `Expr.subexpressions` — an expression with all expressions in it.
* `Parser.Makes` — what a parser makes of the tokens of a text satisfies a condition.
* `Negates` — an integer that parsers negate in a text.

## Main results

* `Token.StandsAt.written` — what stands in a text is written by the lexer.
* `Expr.accepted_of_parse`, `Query.accepted_of_parse` — texts have accepted syntax only.
* `Parser.negates_negatable` — **parsers negate no integer that has no negation**, and leave none in
  the syntax of a text.
-/

namespace DocQuery

open Text

/-! ### Integers with a negation -/

/-- The integer is strictly between the bounds of 64 bits, and its negation is exact. -/
structure Negatable (n : Int64) : Prop where
  lower : -2 ^ 63 < n.toInt
  upper : n.toInt < 2 ^ 63
  exact : (-n).toInt = -n.toInt

namespace Negatable

theorem of_lower {n : Int64} (h : -2 ^ 63 < n.toInt) : Negatable n := by
  have hupper := n.toInt_lt
  refine ⟨h, hupper, ?_⟩
  rw [Int64.toInt_neg]
  exact Int.bmod_eq_of_le (by omega) (by omega)

theorem of_nonneg {n : Int64} (h : 0 ≤ n.toInt) : Negatable n :=
  of_lower (by omega)

/-- The negation has a negation. -/
theorem neg {n : Int64} (h : Negatable n) : Negatable (-n) := by
  have hupper := h.upper
  exact of_lower (by rw [h.exact]; omega)

end Negatable

/-! ### Tokens -/

/-- The lexer can have made the token: numbers have no sign, and names are names and no
keywords. -/
def Token.Written : Token → Prop
  | .integer n => 0 ≤ n.toInt
  | .param name => isName name = true
  | .identifier name => IsIdentifier name
  | _ => True

theorem Cursor.written_word {name : String} (h : isName name = true) : (word name).Written := by
  by_cases hword : word name = .identifier name
  · rw [hword]
    exact ⟨h, hword⟩
  · unfold word at hword ⊢
    split at hword
    case h_7 => exact absurd rfl hword
    all_goals trivial

theorem Spelled.written {token : Token} {w next : List Char} (h : Spelled token w next) :
    token.Written := by
  -- of the other tokens nothing is asked
  cases h with
  | param hname _ =>
    rw [Token.Written, isName, String.toList_ofList]
    exact hname
  | pair sign =>
    unfold Cursor.pair? at sign
    split at sign <;> cases sign <;> trivial
  | single sign _ =>
    unfold Cursor.single? at sign
    split at sign <;> cases sign <;> trivial
  | word hname _ => exact Cursor.written_word (by rwa [isName, String.toList_ofList])
  | integer _ _ _ _ value =>
    rw [Token.Written, toInt_of_signed64? value]
    exact Int.natCast_nonneg _
  | _ => trivial

/-- What stands in a text is written by the lexer. -/
theorem Token.StandsAt.written {token : Token} {text : String} {position : Nat}
    (h : token.StandsAt text position) : token.Written := by
  obtain ⟨after, hread⟩ := h.read
  rcases Cursor.token_eq_ok_iff.mp hread with ⟨-, rfl, -⟩ | ⟨w, -, -, hspelled⟩
  · trivial
  · exact hspelled.written

/-! ### Accepted syntax -/

namespace Expr

/-- The expression is a number. -/
def isNumber : Expr → Bool
  | .float _ => true
  | .integer _ => true
  | _ => false

/-- Expressions that parsers make: integers have a negation, names are names, and no minus sign
stands in front of a number. -/
inductive Accepted : Expr → Prop
  | float (x : FloatLiteral) : Accepted (.float x)
  | integer {n : Int64} (negatable : Negatable n) : Accepted (.integer n)
  | string (s : String) : Accepted (.string s)
  | boolean (b : Bool) : Accepted (.boolean b)
  | null : Accepted .null
  | root : Accepted .root
  | element : Accepted .element
  | param {name : String} (isName : isName name = true) : Accepted (.param name)
  | constant {type member : String} (type_name : IsIdentifier type)
      (member_name : IsIdentifier member) : Accepted (.constant type member)
  | field {object : Expr} (base : Accepted object) (name : String) :
      Accepted (.access object (.key name))
  | index {object key : Expr} (base : Accepted object) (computed : Accepted key) :
      Accepted (.access object key)
  | not {operand : Expr} (inner : Accepted operand) : Accepted (.unary .not operand)
  | negate {operand : Expr} (inner : Accepted operand) (notNumber : operand.isNumber = false) :
      Accepted (.unary .negate operand)
  | binary (op : BinaryOperator) {left right : Expr} (first : Accepted left)
      (second : Accepted right) : Accepted (.binary op left right)
  | call {object : Expr} {method : String} {args : List Expr} (base : Accepted object)
      (method_name : IsIdentifier method) (arg : ∀ e ∈ args, Accepted e) :
      Accepted (.call object method args)
  | object {fields : List (String × Expr)} (value : ∀ f ∈ fields, Accepted f.2) :
      Accepted (.object fields)
  | array {elements : List Expr} (part : ∀ e ∈ elements, Accepted e) : Accepted (.array elements)

mutual

/-- The expression and all expressions in it. -/
def subexpressions : Expr → List Expr
  | .float x => [.float x]
  | .integer n => [.integer n]
  | .string s => [.string s]
  | .boolean b => [.boolean b]
  | .null => [.null]
  | .root => [.root]
  | .element => [.element]
  | .param name => [.param name]
  | .constant type member => [.constant type member]
  | .key name => [.key name]
  | .access base index => .access base index :: (base.subexpressions ++ index.subexpressions)
  | .filter condition => .filter condition :: condition.subexpressions
  | .unary op operand => .unary op operand :: operand.subexpressions
  | .binary op left right =>
    .binary op left right :: (left.subexpressions ++ right.subexpressions)
  | .call base method args =>
    .call base method args :: (base.subexpressions ++ listSubexpressions args)
  | .object fields => .object fields :: fieldSubexpressions fields
  | .array elements => .array elements :: listSubexpressions elements

/-- All expressions in expressions. -/
def listSubexpressions : List Expr → List Expr
  | [] => []
  | e :: es => e.subexpressions ++ listSubexpressions es

/-- All expressions in the entries of an object. -/
def fieldSubexpressions : List (String × Expr) → List Expr
  | [] => []
  | (_, e) :: fields => e.subexpressions ++ fieldSubexpressions fields

end

variable {p : Expr → Prop}

theorem forall_mem_listSubexpressions {es : List Expr} :
    (∀ e ∈ listSubexpressions es, p e) ↔ ∀ e ∈ es, ∀ e' ∈ e.subexpressions, p e' := by
  induction es with
  | nil => simp [listSubexpressions]
  | cons e es ih => rw [listSubexpressions, List.forall_mem_append, ih, List.forall_mem_cons]

theorem forall_mem_fieldSubexpressions {fields : List (String × Expr)} :
    (∀ e ∈ fieldSubexpressions fields, p e) ↔
      ∀ f ∈ fields, ∀ e ∈ f.2.subexpressions, p e := by
  induction fields with
  | nil => simp [fieldSubexpressions]
  | cons f fields ih => rw [fieldSubexpressions, List.forall_mem_append, ih, List.forall_mem_cons]

/-- All integers in an accepted expression have a negation. -/
theorem Accepted.negatable {e : Expr} (h : Accepted e) :
    ∀ e' ∈ e.subexpressions, ∀ n, e' = .integer n → Negatable n := by
  induction h with
  | integer hn =>
    refine List.forall_mem_singleton.mpr ?_
    rintro n ⟨⟩
    exact hn
  | field _ _ ih =>
    rw [subexpressions, List.forall_mem_cons, List.forall_mem_append]
    exact ⟨nofun, ih, List.forall_mem_singleton.mpr nofun⟩
  | index _ _ ih ih' | binary _ _ _ ih ih' =>
    rw [subexpressions, List.forall_mem_cons, List.forall_mem_append]
    exact ⟨nofun, ih, ih'⟩
  | not _ ih | negate _ _ ih =>
    rw [subexpressions, List.forall_mem_cons]
    exact ⟨nofun, ih⟩
  | call _ _ _ ih ihargs =>
    rw [subexpressions, List.forall_mem_cons, List.forall_mem_append]
    exact ⟨nofun, ih, forall_mem_listSubexpressions.mpr ihargs⟩
  | object _ ih =>
    rw [subexpressions, List.forall_mem_cons]
    exact ⟨nofun, forall_mem_fieldSubexpressions.mpr ih⟩
  | array _ ih =>
    rw [subexpressions, List.forall_mem_cons]
    exact ⟨nofun, forall_mem_listSubexpressions.mpr ih⟩
  | _ => exact List.forall_mem_singleton.mpr nofun

end Expr

/-! ### What parsers make -/

theorem Expr.accepted_applyUnary {operand : Expr} (h : operand.Accepted) (op : UnaryOperator) :
    (Parser.applyUnary op operand).Accepted := by
  cases op with
  | not => exact .not h
  | negate =>
    cases h with
    | integer hn => exact .integer hn.neg
    | float x => exact .float x.neg
    | _ => exact .negate (by constructor <;> assumption) rfl

namespace Parser

variable {α β : Type} {text : String}

/-- Whatever the parser makes of tokens that stand in the text satisfies the condition, and it
leaves such tokens. -/
def Makes (text : String) (p : Parser α) (post : α → Prop) : Prop :=
  ∀ input, input.StandsIn text → ∀ a after, p.run input = .ok (a, after) →
    after.StandsIn text ∧ post a

namespace Makes

variable {p : Parser α} {f : α → Parser β} {post : α → Prop} {post' : β → Prop}

theorem pure {a : α} (h : post a) : Makes text (pure a) post := by
  intro input hinput a' after hrun
  cases hrun
  exact ⟨hinput, h⟩

theorem bind (hp : Makes text p post) (hf : ∀ a, post a → Makes text (f a) post') :
    Makes text (p >>= f) post' := by
  intro input hinput b last hrun
  rw [StateT.run_bind] at hrun
  obtain ⟨⟨a, after⟩, hpRun, hfRun⟩ := bind_eq_ok_iff.mp hrun
  obtain ⟨hafter, ha⟩ := hp input hinput a after hpRun
  exact hf a ha after hafter b last hfRun

theorem throw {e : ParseError} : Makes text (throw e : Parser α) post :=
  fun _ _ _ _ hrun => nomatch hrun

theorem unexpected : Makes text (unexpected : Parser α) post :=
  fun _ _ _ _ hrun => nomatch hrun

theorem missing {what : String} : Makes text (missing what : Parser α) post :=
  fun _ _ _ _ hrun => nomatch hrun

theorem ite {c : Prop} [Decidable c] {q : Parser α} (hp : Makes text p post)
    (hq : Makes text q post) : Makes text (if c then p else q) post := by
  split
  · exact hp
  · exact hq

theorem peek : Makes text peek Token.Written := by
  intro input hinput token after hrun
  cases hrun
  exact ⟨hinput, (hinput _ List.mem_cons_self).written⟩

/-- A parser keeps the tokens where they are. -/
theorem of_uniform (hp : p.Uniform) : Makes text p fun _ => True := by
  intro input hinput a after hrun
  have halike := hp _ _ (simulation_standing text) input input ⟨rfl, hinput⟩
  rw [hrun] at halike
  exact ⟨halike.2.2, trivial⟩

theorem advance : Makes text advance fun _ => True :=
  of_uniform .advance

theorem remaining : Makes text remaining fun _ => True :=
  of_uniform .remaining

theorem expect (token : Token) : Makes text (expect token) fun _ => True :=
  of_uniform (.expect token)

theorem identifier (what : String) : Makes text (identifier what) IsIdentifier := by
  refine bind peek fun token htoken => ?_
  split
  · exact bind advance fun _ _ => pure htoken
  · exact missing

/-- One more token is passed before a result. -/
theorem advance_pure {a : α} (h : post a) :
    Makes text (do Parser.advance; return a : Parser α) post :=
  bind advance fun _ _ => pure h

end Makes

/-! ### Lists -/

section Lists

variable {entry : Parser α} {post : α → Prop} (hentry : Makes text entry post)

include hentry

theorem makes_entriesUntil (close : Token) (fuel : Nat) :
    Makes text (entriesUntil close entry fuel) fun as => ∀ a ∈ as, post a := by
  induction fuel with
  | zero => exact .pure (List.forall_mem_nil _)
  | succ fuel ih =>
    refine .bind .peek fun _ _ => .ite (.pure (List.forall_mem_nil _)) ?_
    refine .bind hentry fun first hfirst => .bind .peek fun _ _ => ?_
    have hothers : Makes text (do return first :: (← entriesUntil close entry fuel))
        fun as => ∀ a ∈ as, post a :=
      .bind ih fun _ hothers => .pure (List.forall_mem_cons.mpr ⟨hfirst, hothers⟩)
    exact .ite hothers (.bind (.expect .comma) fun _ _ => hothers)

theorem makes_entries (close : Token) :
    Makes text (entries close entry) fun as => ∀ a ∈ as, post a :=
  .bind .remaining fun fuel _ => .bind (makes_entriesUntil hentry close fuel) fun _ hfound =>
    .bind (.expect close) fun _ _ => .pure hfound

end Lists

/-! ### Expressions -/

section Nested

variable {nested : Parser Expr} (hnested : Makes text nested Expr.Accepted)

include hnested

theorem makes_field : Makes text (field nested) fun f => f.2.Accepted := by
  have hentry (name : String) :
      Makes text (do advance; expect .colon; return (name, ← nested)) fun f => f.2.Accepted :=
    .bind .advance fun _ _ => .bind (.expect .colon) fun _ _ => .bind hnested fun _ he => .pure he
  refine .bind .peek fun token _ => ?_
  split
  · exact hentry _
  · exact hentry _
  · exact .missing

theorem makes_primary : Makes text (primary nested) Expr.Accepted := by
  refine .bind .peek fun token htoken => ?_
  split
  · exact .advance_pure (.float _)
  · exact .advance_pure (.integer (.of_nonneg htoken))
  · exact .advance_pure (.string _)
  · exact .advance_pure (.boolean _)
  · exact .advance_pure .null
  · exact .advance_pure .root
  · exact .advance_pure .element
  · exact .advance_pure (.param htoken)
  · next type =>
    have hmember : Makes text (do
        advance
        return .constant type (← identifier "enum member after '.'")) Expr.Accepted :=
      .bind .advance fun _ _ => .bind (.identifier _) fun _ hname => .pure (.constant htoken hname)
    -- without a point behind the type the parser fails before it comes to a member
    refine .bind .advance fun _ _ => .bind .peek fun _ _ => .ite hmember ?_
    exact .bind .throw fun _ (h : True) => hmember
  · exact .bind .advance fun _ _ => .bind hnested fun _ he => .bind (.expect .rParen) fun _ _ =>
      .pure he
  · exact .bind .advance fun _ _ => .bind (makes_entries (makes_field hnested) _) fun _ hfields =>
      .pure (.object hfields)
  · exact .bind .advance fun _ _ => .bind (makes_entries hnested _) fun _ helements =>
      .pure (.array helements)
  · exact .unexpected

/-- A key is a name or an expression. -/
theorem makes_bracketKey :
    Makes text (bracketKey nested) fun key => (∃ name, key = .key name) ∨ key.Accepted := by
  refine .bind .peek fun token _ => ?_
  split
  · exact .advance_pure (.inl ⟨_, rfl⟩)
  · exact .advance_pure (.inl ⟨_, rfl⟩)
  · exact fun input hinput e after hrun => (hnested input hinput e after hrun).imp_right .inr

theorem makes_suffixes (fuel : Nat) {object : Expr} (hobject : object.Accepted) :
    Makes text (suffixes nested fuel object) Expr.Accepted := by
  -- each step makes the object of the next one
  induction fuel generalizing object with
  | zero => exact .pure hobject
  | succ fuel ih =>
    refine .bind .peek fun token _ => ?_
    split
    · refine .bind .advance fun _ _ => .bind (makes_bracketKey hnested) fun key hkey => ?_
      refine .bind (.expect .rBracket) fun _ _ => ih ?_
      obtain ⟨name, rfl⟩ | hkey := hkey
      · exact .field hobject name
      · exact .index hobject hkey
    · refine .bind .advance fun _ _ => .bind (.identifier _) fun name hname => .bind .peek fun _ _ => ?_
      refine .ite (.bind .advance fun _ _ => ?_) (ih (.field hobject name))
      exact .bind (makes_entries hnested .rParen) fun args hargs => ih (.call hobject hname hargs)
    · exact .pure hobject

theorem makes_access : Makes text (access nested) Expr.Accepted :=
  .bind (makes_primary hnested) fun _ hobject => .bind .remaining fun fuel _ =>
    makes_suffixes hnested fuel hobject

theorem makes_unary (fuel : Nat) : Makes text (unary nested fuel) Expr.Accepted := by
  -- signs are applied from the inside, so the operand of each has a negation already
  induction fuel with
  | zero => exact .unexpected
  | succ fuel ih =>
    have happly (op : UnaryOperator) :
        Makes text (do advance; return applyUnary op (← unary nested fuel)) Expr.Accepted :=
      .bind .advance fun _ _ => .bind ih fun _ he => .pure (Expr.accepted_applyUnary he op)
    refine .bind .peek fun token _ => ?_
    split
    · exact happly .not
    · exact happly .negate
    · exact makes_access hnested

end Nested

section Levels

variable {operand : Parser Expr} (hoperand : Makes text operand Expr.Accepted)

include hoperand

theorem makes_operations (operator? : Token → Option BinaryOperator) (fuel : Nat) {left : Expr}
    (hleft : left.Accepted) :
    Makes text (operations operand operator? fuel left) Expr.Accepted := by
  induction fuel generalizing left with
  | zero => exact .pure hleft
  | succ fuel ih =>
    refine .bind .peek fun token _ => ?_
    split
    · exact .pure hleft
    · next op _ =>
      exact .bind .advance fun _ _ => .bind hoperand fun _ hright => ih (.binary op hleft hright)

theorem makes_leftAssociative (operator? : Token → Option BinaryOperator) :
    Makes text (leftAssociative operand operator?) Expr.Accepted :=
  .bind hoperand fun _ hfirst => .bind .remaining fun fuel _ =>
    makes_operations hoperand operator? fuel hfirst

end Levels

section Operators

variable {nested : Parser Expr} (hnested : Makes text nested Expr.Accepted)

include hnested

theorem makes_operand : Makes text (operand nested) Expr.Accepted := by
  have hfactor : Makes text (do unary nested (← remaining)) Expr.Accepted :=
    .bind .remaining fun fuel _ => makes_unary hnested fuel
  have hterm := makes_leftAssociative hfactor multiplicative?
  have hsum := makes_leftAssociative hterm additive?
  have hconjunct := makes_leftAssociative hsum bitAnd?
  have hdisjunct := makes_leftAssociative hconjunct bitOr?
  exact makes_leftAssociative hdisjunct coalesce?

theorem makes_comparison : Makes text (comparison nested) Expr.Accepted := by
  refine .bind (makes_operand hnested) fun left hleft => .bind .peek fun token _ => ?_
  split
  · exact .pure hleft
  · next op _ =>
    exact .bind .advance fun _ _ => .bind (makes_operand hnested) fun _ hright =>
      .pure (.binary op hleft hright)

theorem makes_disjunction : Makes text (disjunction nested) Expr.Accepted :=
  makes_leftAssociative (makes_leftAssociative (makes_comparison hnested) and?) or?

end Operators

theorem makes_expressionWithin (depth : Nat) :
    Makes text (expressionWithin depth) Expr.Accepted := by
  induction depth with
  | zero => exact .unexpected
  | succ depth ih => exact makes_disjunction ih

theorem makes_expression : Makes text expression Expr.Accepted :=
  .bind .remaining fun depth _ => makes_expressionWithin depth

end Parser

/-! ### Statements -/

/-- A value that parsers make for an assignment: an expression, or a condition on elements. -/
inductive Expr.AcceptedValue : Expr → Prop
  | expression {e : Expr} (accepted : e.Accepted) : AcceptedValue e
  | filter {condition : Expr} (accepted : condition.Accepted) : AcceptedValue (.filter condition)

theorem Expr.AcceptedValue.negatable {e : Expr} (h : e.AcceptedValue) :
    ∀ e' ∈ e.subexpressions, ∀ n, e' = .integer n → Negatable n := by
  cases h with
  | expression he => exact he.negatable
  | filter hc => exact List.forall_mem_cons.mpr ⟨nofun, hc.negatable⟩

namespace Statement

/-- The expressions of a statement. -/
def expressions : Statement → List Expr
  | .filter condition => [condition]
  | .transform assignments => assignments.flatMap fun a => [a.1, a.2]
  | .output value => [value]
  | .sort keys => keys.map (·.1)
  | .skip _ => []
  | .limit _ => []
  | .unwind path _ => [path]
  | .count _ => []
  | .group key accumulators => key :: accumulators.map (·.2)

/-- The number of documents that a statement skips or keeps. -/
def amount? : Statement → Option Int64
  | .skip n => some n
  | .limit n => some n
  | _ => none

/-- Statements that parsers make. -/
structure Accepted (s : Statement) : Prop where
  expression : ∀ e ∈ s.expressions, e.AcceptedValue
  amount : ∀ n, s.amount? = some n → Negatable n

/-- A statement without an amount. -/
theorem Accepted.of_expressions {s : Statement} (hamount : s.amount? = none)
    (h : ∀ e ∈ s.expressions, e.AcceptedValue) : s.Accepted := by
  refine ⟨h, fun n hn => ?_⟩
  rw [hamount] at hn
  cases hn

end Statement

namespace Parser

variable {text : String}

theorem makes_target : Makes text target Expr.Accepted :=
  makes_access makes_expression

theorem makes_parenthesized : Makes text parenthesized Expr.Accepted :=
  .bind (.expect .lParen) fun _ _ => .bind makes_expression fun _ he =>
    .bind (.expect .rParen) fun _ _ => .pure he

theorem makes_assignment :
    Makes text assignment fun a => a.1.Accepted ∧ a.2.AcceptedValue := by
  refine .bind makes_target fun path hpath => .bind (.expect .colonEqual) fun _ _ =>
    .bind .peek fun _ _ => .ite ?_ ?_
  · exact .bind .advance fun _ _ => .bind makes_parenthesized fun _ hc => .pure ⟨hpath, .filter hc⟩
  · exact .bind makes_expression fun _ he => .pure ⟨hpath, .expression he⟩

theorem makes_assignments (fuel : Nat) :
    Makes text (assignments fuel) fun as => ∀ a ∈ as, a.1.Accepted ∧ a.2.AcceptedValue := by
  induction fuel with
  | zero => exact .pure (List.forall_mem_nil _)
  | succ fuel ih =>
    refine .bind makes_assignment fun first hfirst => .bind .peek fun _ _ => .ite ?_ ?_
    · exact .bind .advance fun _ _ => .bind ih fun _ hothers =>
        .pure (List.forall_mem_cons.mpr ⟨hfirst, hothers⟩)
    · exact .pure (List.forall_mem_singleton.mpr hfirst)

theorem makes_integerArgument : Makes text integerArgument Negatable := by
  refine .bind .peek fun token htoken => ?_
  split
  · exact .advance_pure (.of_nonneg htoken)
  · refine .bind .advance fun _ _ => .bind .peek fun token htoken => ?_
    split
    · have hnegatable := Negatable.of_nonneg htoken
      exact .advance_pure hnegatable.neg
    · exact .unexpected
  · exact .missing

theorem makes_sortKey : Makes text sortKey fun key => key.1.Accepted := by
  refine .bind makes_target fun key hkey => .bind .peek fun token _ => ?_
  split
  · exact .advance_pure hkey
  · exact .advance_pure hkey
  · exact .pure hkey

theorem makes_keywordStatement (keyword : String) :
    Makes text (keywordStatement keyword) Statement.Accepted := by
  have hamount {s : Int64 → Statement} (hexpressions : ∀ n, (s n).expressions = [])
      (hs : ∀ n, (s n).amount? = some n) :
      Makes text (do return s (← integerArgument)) Statement.Accepted := by
    refine .bind makes_integerArgument fun n hn => .pure ⟨?_, fun k hk => ?_⟩
    · rw [hexpressions]
      exact List.forall_mem_nil _
    · rw [hs, Option.some.injEq] at hk
      exact hk ▸ hn
  unfold keywordStatement
  split
  · exact hamount (fun _ => rfl) fun _ => rfl
  · exact hamount (fun _ => rfl) fun _ => rfl
  · refine .bind makes_target fun path hpath =>
      .bind (.of_uniform uniform_keepEmptyArgument) fun _ _ => .pure (.of_expressions rfl ?_)
    exact List.forall_mem_singleton.mpr (.expression hpath)
  · refine .bind .peek fun token _ => ?_
    split
    · exact .advance_pure (.of_expressions rfl (List.forall_mem_nil _))
    · exact .missing
  · refine .bind .remaining fun fuel _ => .bind (makes_entriesUntil makes_sortKey .rParen fuel)
      fun keys hkeys => .pure (.of_expressions rfl ?_)
    exact List.forall_mem_map.mpr fun key hkey => .expression (hkeys key hkey)
  · refine .bind makes_expression fun key hkey => .bind (.expect .comma) fun _ _ =>
      .bind (.expect .lBrace) fun _ _ => .bind (makes_entries (makes_field makes_expression) .rBrace)
      fun fields hfields => .pure (.of_expressions rfl ?_)
    refine List.forall_mem_cons.mpr ⟨.expression hkey, ?_⟩
    exact List.forall_mem_map.mpr fun field hfield => .expression (hfields field hfield)
  · exact .throw

theorem makes_statement : Makes text statement Statement.Accepted := by
  refine .bind .peek fun token _ => ?_
  split
  · refine .bind .advance fun _ _ => .bind makes_parenthesized fun _ hc =>
      .pure (.of_expressions rfl ?_)
    exact List.forall_mem_singleton.mpr (.expression hc)
  · refine .bind .advance fun _ _ => .bind (.expect .lParen) fun _ _ => .bind .remaining fun fuel _ =>
      .bind (makes_assignments fuel) fun found hfound => .bind (.expect .rParen) fun _ _ =>
      .pure (.of_expressions rfl ?_)
    refine List.forall_mem_flatMap.mpr fun a ha => ?_
    obtain ⟨htarget, hvalue⟩ := hfound a ha
    exact List.forall_mem_cons.mpr ⟨.expression htarget, List.forall_mem_singleton.mpr hvalue⟩
  · refine .bind .advance fun _ _ => .bind makes_parenthesized fun _ hvalue =>
      .pure (.of_expressions rfl ?_)
    exact List.forall_mem_singleton.mpr (.expression hvalue)
  · exact .bind .advance fun _ _ => .bind (.expect .lParen) fun _ _ =>
      .bind (makes_keywordStatement _) fun _ hs => .bind (.expect .rParen) fun _ _ => .pure hs
  · exact .unexpected

theorem makes_statements (fuel : Nat) :
    Makes text (statements fuel) fun ss => ∀ s ∈ ss, s.Accepted := by
  induction fuel with
  | zero => exact .pure (List.forall_mem_nil _)
  | succ fuel ih =>
    refine .bind .peek fun _ _ => .ite (.bind .advance fun _ _ => ?_) (.pure (List.forall_mem_nil _))
    exact .bind makes_statement fun _ hfirst => .bind ih fun _ hothers =>
      .pure (List.forall_mem_cons.mpr ⟨hfirst, hothers⟩)

theorem makes_query : Makes text query fun q => ∀ s ∈ q.statements, s.Accepted :=
  .bind (.expect .dollar) fun _ _ => .bind .remaining fun fuel _ =>
    .bind (makes_statements fuel) fun _ h => .pure h

/-! ### Whole texts -/

/-- What is made of a whole text. -/
theorem Makes.of_parseText {α : Type} {p : Parser α} {post : α → Prop} (hp : Makes text p post)
    {a : α} (h : parseText p text = .ok a) : post a := by
  obtain ⟨input, after, last, hinput, hrun, -⟩ := parseText_eq_ok_iff.mp h
  exact (hp input (Input.standsIn_of_ofScan hinput) a after hrun).2

end Parser

theorem Expr.accepted_of_parse {text : String} {e : Expr} (h : Expr.parse text = .ok e) :
    e.Accepted :=
  Parser.makes_expression.of_parseText h

theorem Query.accepted_of_parse {text : String} {q : Query} (h : Query.parse text = .ok q) :
    ∀ s ∈ q.statements, s.Accepted :=
  Parser.makes_query.of_parseText h

/-- The integer is one that parsers negate where tokens of the text are left: the operand of a minus
sign, at any depth of brackets, or an argument with a minus sign in front of it. -/
inductive Negates (text : String) (n : Int64) : Prop
  | operand {input after last : Input} {depth fuel : Nat} (stands : input.StandsIn text)
      (minus : input.current.token = .minus) (next : Parser.advance.run input = .ok ((), after))
      (operand : (Parser.unary (Parser.expressionWithin depth) fuel).run after
        = .ok (.integer n, last)) : Negates text n
  | argument {input after : Input} (stands : input.StandsIn text)
      (minus : input.current.token = .minus) (next : Parser.advance.run input = .ok ((), after))
      (argument : after.current.token = .integer n) : Negates text n

/-- **Parsers negate no integer that has no negation**, in a text with a syntax or without one, and
all integers in the syntax of a text have a negation. -/
theorem Parser.negates_negatable (text : String) :
    (∀ n, Negates text n → Negatable n) ∧
    (∀ e, Expr.parse text = .ok e → ∀ n, .integer n ∈ e.subexpressions → Negatable n) ∧
    ∀ q, Query.parse text = .ok q → ∀ s ∈ q.statements,
      (∀ n, s.amount? = some n → Negatable n) ∧
      ∀ e ∈ s.expressions, ∀ n, .integer n ∈ e.subexpressions → Negatable n := by
  refine ⟨fun n hn => ?_, fun e he n hn => ?_, fun q hq s hs => ?_⟩
  · cases hn with
    | operand stands _ next operand =>
      obtain ⟨hafter, -⟩ := Makes.advance _ stands _ _ next
      obtain ⟨-, hoperand⟩ :=
        makes_unary (makes_expressionWithin _) _ _ hafter _ _ operand
      exact hoperand.negatable _ List.mem_cons_self n rfl
    | argument stands _ next argument =>
      obtain ⟨hafter, -⟩ := Makes.advance _ stands _ _ next
      have hwritten := (hafter _ List.mem_cons_self).written
      rw [argument] at hwritten
      exact .of_nonneg hwritten
  · exact (Expr.accepted_of_parse he).negatable _ hn n rfl
  · have haccepted := Query.accepted_of_parse hq s hs
    exact ⟨haccepted.amount, fun e he n hn => (haccepted.expression e he).negatable _ hn n rfl⟩

/-- Signs on both sides of a bracket in front of the greatest integer, and a sign in front of an
argument. -/
theorem Parser.negates_negatable_nested :
    (Negates "-(-9223372036854775807)" (-9223372036854775807) ∧ Negatable (-9223372036854775807)) ∧
    (Expr.parse "-(-9223372036854775807)" = .ok (.integer 9223372036854775807) ∧
      Negatable 9223372036854775807) ∧
    Query.parse "$ |> skip(-7)" = .ok ⟨[.skip (-7)]⟩ ∧ Negatable (-7) := by
  obtain ⟨hnegates, hexpr, -⟩ := Parser.negates_negatable "-(-9223372036854775807)"
  obtain ⟨-, -, hquery⟩ := Parser.negates_negatable "$ |> skip(-7)"
  have hneg : - -9223372036854775807 = (9223372036854775807 : Int64) := by decide
  have hparse : Expr.parse "-(-9223372036854775807)" = .ok (.integer 9223372036854775807) := by
    rw [← hneg]
    rfl
  have hparse' : Query.parse "$ |> skip(-7)" = .ok ⟨[.skip (-7)]⟩ := rfl
  have hoperand : Negates "-(-9223372036854775807)" (-9223372036854775807) := by
    obtain ⟨input, hinput, hminus, after, hnext, last, hrun⟩ :
        ∃ input, Input.ofScan (scan "-(-9223372036854775807)") = .ok input ∧
          input.current.token = .minus ∧ ∃ after, Parser.advance.run input = .ok ((), after) ∧
          ∃ last, (Parser.unary (Parser.expressionWithin 1) 1).run after
            = .ok (.integer (-9223372036854775807), last) :=
      ⟨_, rfl, rfl, _, rfl, _, rfl⟩
    exact .operand (Input.standsIn_of_ofScan hinput) hminus hnext hrun
  exact ⟨⟨hoperand, hnegates _ hoperand⟩, ⟨hparse, hexpr _ hparse _ List.mem_cons_self⟩, hparse',
    (hquery _ hparse' _ List.mem_cons_self).1 (-7) rfl⟩

end DocQuery
