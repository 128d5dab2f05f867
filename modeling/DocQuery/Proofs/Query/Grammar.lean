import DocQuery.Query.Expr

/-!
# The grammar of expressions

Which tokens write which expression, stated by rules and without an algorithm.  There are eight
levels of binary operators.  On each of them operations associate to the left, apart from
comparisons, whose operands are no comparisons themselves; inside are the operators in front of an
operand, the keys and calls behind an object, and what stands on its own or in brackets.

Lists have commas between their parts and may have one more at the end.  Parentheses leave no
trace, and the minus sign in front of a number belongs to the number.

## Main definitions

* `Level` — the levels of binary operators, with the tokens for the operators.
* `Separated` — parts with commas between them.
* `Symbol`, `Derives` — the symbols of the grammar and the tokens that they derive.
* `Symbol.EndsBefore` — a token that cannot go on what a symbol derives.

## Main results

* `Derives.exists_cons` — a derivation begins with a token that can begin an operand.
* `Symbol.endsBefore_operand`, `Symbol.endsBefore_of_operator` — where the operands of a level end.
-/

namespace DocQuery

/-! ### Tokens -/

namespace Token

/-- The expression that a token writes on its own. -/
def atom? : Token → Option Expr
  | .float x => some (.float x)
  | .integer n => some (.integer n)
  | .string s => some (.string s)
  | .boolean b => some (.boolean b)
  | .null => some .null
  | .dollar => some .root
  | .at => some .element
  | .param name => some (.param name)
  | _ => none

/-- The name that a token writes as a key, bare or quoted. -/
def keyName? : Token → Option String
  | .identifier name => some name
  | .string name => some name
  | _ => none

end Token

/-- A minus sign in front of an expression; that of a number belongs to it. -/
def Expr.negated : Expr → Expr
  | .integer n => .integer (-n)
  | .float x => .float x.neg
  | e => .unary .negate e

/-- The parts with commas between them, and perhaps one after the last. -/
inductive Separated : List (List Token) → List Token → Prop
  | nil : Separated [] []
  | last (part : List Token) : Separated [part] part
  | cons {parts : List (List Token)} {ts : List Token} (part : List Token)
      (rest : Separated parts ts) : Separated (part :: parts) (part ++ .comma :: ts)

namespace Separated

theorem eq_nil {ts : List Token} (h : Separated [] ts) : ts = [] := by
  cases h
  rfl

/-- After the first part comes nothing, or a comma with the other parts. -/
theorem cons_inv {part : List Token} {parts : List (List Token)} {ts : List Token}
    (h : Separated (part :: parts) ts) :
    parts = [] ∧ ts = part ∨ ∃ rest, ts = part ++ .comma :: rest ∧ Separated parts rest := by
  cases h with
  | last => exact .inl ⟨rfl, rfl⟩
  | cons _ rest => exact .inr ⟨_, rfl, rest⟩

/-- A comma stands between any two parts. -/
theorem length_le {parts : List (List Token)} {ts : List Token} (h : Separated parts ts) :
    parts.length ≤ ts.length + 1 := by
  induction h with
  | nil => exact Nat.zero_le _
  | last part => exact Nat.le_add_left 1 _
  | cons part _ ih =>
    rw [List.length_cons, List.length_append, List.length_cons]
    omega

end Separated

/-! ### Levels -/

/-- The levels of binary operators, those that bind least tightly first. -/
inductive Level where
  | or
  | and
  | comparison
  | coalesce
  | bitOr
  | bitAnd
  | sum
  | product
  deriving DecidableEq

namespace Level

/-- The operator that a token writes on a level. -/
def operator? : Level → Token → Option BinaryOperator
  | .or, .or => some .or
  | .and, .and => some .and
  | .comparison, .eqEq => some .equal
  | .comparison, .notEq => some .notEqual
  | .comparison, .lt => some .less
  | .comparison, .gt => some .greater
  | .comparison, .ltEq => some .lessEqual
  | .comparison, .gtEq => some .greaterEqual
  | .coalesce, .questionQuestion => some .coalesce
  | .bitOr, .bar => some .bitOr
  | .bitAnd, .ampersand => some .bitAnd
  | .sum, .plus => some .add
  | .sum, .minus => some .subtract
  | .product, .star => some .multiply
  | .product, .slash => some .divide
  | .product, .percent => some .modulo
  | _, _ => none

@[simp] theorem operator?_eof (level : Level) : level.operator? .eof = none := by
  cases level <;> rfl

/-- How tightly the operators of a level bind. -/
def rank : Level → Nat
  | .or => 0
  | .and => 1
  | .comparison => 2
  | .coalesce => 3
  | .bitOr => 4
  | .bitAnd => 5
  | .sum => 6
  | .product => 7

end Level

/-! ### Symbols and derivations -/

/-- A symbol of the grammar. -/
inductive Symbol where
  /-- An operation of a level, or of one that binds more tightly. -/
  | operation (level : Level)
  /-- Operators in front of an operand. -/
  | unary
  /-- An object with keys and calls behind it. -/
  | access
  /-- What stands on its own or in brackets. -/
  | primary
  /-- What stands in the brackets of an access. -/
  | key
  /-- An entry of an object, under its name. -/
  | field (name : String)

/-- Any expression. -/
abbrev Symbol.expression : Symbol := .operation .or

/-- The right operand of an operation, and an operand on its own. -/
def Level.operand : Level → Symbol
  | .or => .operation .and
  | .and => .operation .comparison
  | .comparison => .operation .coalesce
  | .coalesce => .operation .bitOr
  | .bitOr => .operation .bitAnd
  | .bitAnd => .operation .sum
  | .sum => .operation .product
  | .product => .unary

/-- The left operand of an operation: it may be one of the same level, except that comparisons do
not chain. -/
def Level.leftOperand : Level → Symbol
  | .comparison => .operation .coalesce
  | level => .operation level

/-- The tokens are derived from the symbol and write the expression. -/
inductive Derives : Symbol → List Token → Expr → Prop
  | operand {level : Level} {ts : List Token} {e : Expr}
      (operand : Derives level.operand ts e) : Derives (.operation level) ts e
  | operation {level : Level} {lefts rights : List Token} {token : Token} {op : BinaryOperator}
      {l r : Expr} (left : Derives level.leftOperand lefts l)
      (operator : level.operator? token = some op) (right : Derives level.operand rights r) :
      Derives (.operation level) (lefts ++ token :: rights) (.binary op l r)
  | not {ts : List Token} {e : Expr} (operand : Derives .unary ts e) :
      Derives .unary (.not :: ts) (.unary .not e)
  | negate {ts : List Token} {e : Expr} (operand : Derives .unary ts e) :
      Derives .unary (.minus :: ts) e.negated
  | unary {ts : List Token} {e : Expr} (access : Derives .access ts e) : Derives .unary ts e
  | access {ts : List Token} {e : Expr} (primary : Derives .primary ts e) : Derives .access ts e
  | index {ts ks : List Token} {e k : Expr} (object : Derives .access ts e)
      (key : Derives .key ks k) :
      Derives .access (ts ++ .lBracket :: (ks ++ [.rBracket])) (.access e k)
  | member {ts : List Token} {e : Expr} (object : Derives .access ts e) (name : String) :
      Derives .access (ts ++ [.dot, .identifier name]) (.access e (.key name))
  | call {ts as : List Token} {e : Expr} (object : Derives .access ts e) (method : String)
      (args : List (List Token × Expr)) (separated : Separated (args.map (·.1)) as)
      (arg : ∀ a ∈ args, Derives .expression a.1 a.2) :
      Derives .access (ts ++ .dot :: .identifier method :: .lParen :: (as ++ [.rParen]))
        (.call e method (args.map (·.2)))
  | atom {token : Token} {e : Expr} (atom : token.atom? = some e) : Derives .primary [token] e
  | constant (type member : String) :
      Derives .primary [.identifier type, .dot, .identifier member] (.constant type member)
  | parentheses {ts : List Token} {e : Expr} (inside : Derives .expression ts e) :
      Derives .primary (.lParen :: (ts ++ [.rParen])) e
  | object {ts : List Token} (fields : List (List Token × String × Expr))
      (separated : Separated (fields.map (·.1)) ts)
      (field : ∀ f ∈ fields, Derives (.field f.2.1) f.1 f.2.2) :
      Derives .primary (.lBrace :: (ts ++ [.rBrace])) (.object (fields.map (·.2)))
  | array {ts : List Token} (elements : List (List Token × Expr))
      (separated : Separated (elements.map (·.1)) ts)
      (element : ∀ e ∈ elements, Derives .expression e.1 e.2) :
      Derives .primary (.lBracket :: (ts ++ [.rBracket])) (.array (elements.map (·.2)))
  | field {token : Token} {name : String} {ts : List Token} {e : Expr}
      (key : token.keyName? = some name) (value : Derives .expression ts e) :
      Derives (.field name) (token :: .colon :: ts) e
  | key {token : Token} {name : String} (key : token.keyName? = some name) :
      Derives .key [token] (.key name)
  | computed {ts : List Token} {e : Expr} (notName : ts.head?.bind Token.keyName? = none)
      (value : Derives .expression ts e) : Derives .key ts e

/-! ### Where derivations begin -/

/-- The token can begin what stands on its own or in brackets. -/
def Token.opens : Token → Bool
  | .float _ | .integer _ | .string _ | .boolean _ | .null | .param _ | .identifier _ | .dollar
  | .at | .lParen | .lBrace | .lBracket => true
  | _ => false

theorem Token.opens_of_atom? {token : Token} {e : Expr} (h : token.atom? = some e) :
    token.opens = true := by
  cases token <;> first | rfl | cases h

theorem Token.opens_of_keyName? {token : Token} {name : String}
    (h : token.keyName? = some name) : token.opens = true := by
  cases token <;> first | rfl | cases h

/-- The token can begin what is derived from the symbol: an operator in front of an operand does
so, except for objects of keys and calls. -/
def Symbol.CanBegin (s : Symbol) (token : Token) : Prop :=
  token.opens = true ∨ (token = .not ∨ token = .minus) ∧ s ≠ .access ∧ s ≠ .primary

/-- What is derived from a symbol begins with a token that can begin it. -/
theorem Derives.exists_cons {s : Symbol} {ts : List Token} {e : Expr} (h : Derives s ts e) :
    ∃ token rest, ts = token :: rest ∧ s.CanBegin token := by
  have hmono {s s' : Symbol} {ts : List Token} (hs : s' ≠ .access ∧ s' ≠ .primary) :
      (∃ token rest, ts = token :: rest ∧ s.CanBegin token) →
        ∃ token rest, ts = token :: rest ∧ s'.CanBegin token := by
    rintro ⟨token, rest, rfl, hopens | ⟨hfront, -⟩⟩
    · exact ⟨token, rest, rfl, .inl hopens⟩
    · exact ⟨token, rest, rfl, .inr ⟨hfront, hs⟩⟩
  have happend {s : Symbol} {ts : List Token} (more : List Token) :
      (∃ token rest, ts = token :: rest ∧ s.CanBegin token) →
        ∃ token rest, ts ++ more = token :: rest ∧ s.CanBegin token := by
    rintro ⟨token, rest, rfl, hbegin⟩
    exact ⟨token, rest ++ more, rfl, hbegin⟩
  induction h with
  | operand _ ih | unary _ ih | computed _ _ ih => exact hmono ⟨nofun, nofun⟩ ih
  | operation _ _ _ ih => exact happend _ (hmono ⟨nofun, nofun⟩ ih)
  | not _ _ => exact ⟨_, _, rfl, .inr ⟨.inl rfl, nofun, nofun⟩⟩
  | negate _ _ => exact ⟨_, _, rfl, .inr ⟨.inr rfl, nofun, nofun⟩⟩
  | access _ ih =>
    obtain ⟨token, rest, rfl, hopens | ⟨-, -, hne⟩⟩ := ih
    · exact ⟨token, rest, rfl, .inl hopens⟩
    · exact absurd rfl hne
  | index _ _ ih | member _ _ ih | call _ _ _ _ _ ih => exact happend _ ih
  | constant _ _ | parentheses _ _ | object _ _ _ | array _ _ _ => exact ⟨_, _, rfl, .inl rfl⟩
  | atom h => exact ⟨_, _, rfl, .inl (Token.opens_of_atom? h)⟩
  | field h | key h => exact ⟨_, _, rfl, .inl (Token.opens_of_keyName? h)⟩

/-! ### Where derivations end -/

/-- How tightly a token binds what stands before it: as the operator of a level, or more tightly
than any as the beginning of a key or a call. -/
def Token.strength? : Token → Option Nat
  | .or => some 0
  | .and => some 1
  | .eqEq | .notEq | .lt | .gt | .ltEq | .gtEq => some 2
  | .questionQuestion => some 3
  | .bar => some 4
  | .ampersand => some 5
  | .plus | .minus => some 6
  | .star | .slash | .percent => some 7
  | .dot | .lBracket | .lParen => some 8
  | _ => none

/-- How tightly a token has to bind to go on what a symbol derives. -/
def Symbol.rank : Symbol → Nat
  | .operation level => level.rank
  | .unary | .access => 8
  | .primary => 9
  | .key | .field _ => 0

/-- What is derived from the symbol cannot go on with the token. -/
def Symbol.EndsBefore (s : Symbol) (token : Token) : Prop :=
  ∀ n, token.strength? = some n → n < s.rank

theorem Level.strength?_of_operator? {level : Level} {token : Token} {op : BinaryOperator}
    (h : level.operator? token = some op) : token.strength? = some level.rank := by
  cases level <;> cases token <;> first | rfl | cases h

theorem Level.rank_operand (level : Level) : level.operand.rank = level.rank + 1 := by
  cases level <;> rfl

theorem Symbol.endsBefore_operand {level : Level} {token : Token}
    (h : (Symbol.operation level).EndsBefore token) : level.operand.EndsBefore token := by
  intro n hn
  have hlt : n < level.rank := h n hn
  rw [level.rank_operand]
  omega

/-- An operator of a level ends its operands. -/
theorem Symbol.endsBefore_of_operator {level : Level} {token : Token} {op : BinaryOperator}
    (h : level.operator? token = some op) : level.operand.EndsBefore token := by
  intro n hn
  rw [Level.strength?_of_operator? h, Option.some.injEq] at hn
  rw [level.rank_operand, hn]
  omega

/-- Where an operation of a level ends, none of its operators stands. -/
theorem Symbol.EndsBefore.operator?_eq_none {level : Level} {token : Token}
    (h : (Symbol.operation level).EndsBefore token) : level.operator? token = none := by
  cases hop : level.operator? token with
  | none => rfl
  | some op => exact absurd (h level.rank (Level.strength?_of_operator? hop)) (Nat.lt_irrefl _)

/-- Everything ends before a token that binds nothing. -/
theorem Symbol.endsBefore_of_strength?_eq_none {token : Token} (h : token.strength? = none)
    (s : Symbol) : s.EndsBefore token := by
  intro n hn
  rw [h] at hn
  cases hn

end DocQuery
