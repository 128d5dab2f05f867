import DocQuery.Proofs.Query.Grammar
import DocQuery.Proofs.Query.Reading

/-!
# What parsers make of tokens is derived from them

If a parser succeeds, then the tokens that it has taken away are derived from its symbol and write
its result.  This holds with any bounds on the number of rounds of a loop and on the depth of
brackets, since a loop that runs out of rounds stops where a derivation may end.

## Main definitions

* `Listed` — the tokens write the members of a list, with commas between them.
* `Parser.Sound` — what a parser makes of tokens is derived from a symbol.

## Main results

* `Parser.yields_entries` — entries of a list up to its closing token.
* `Parser.sound_leftAssociative`, `Parser.sound_primary`, … — the parsers of the levels.
* `Parser.sound_expression` — **the parser of expressions is sound.**
-/

namespace DocQuery

variable {α : Type}

/-- The tokens write the members of the list, each as the relation says, with commas between
them. -/
def Listed (writes : List Token → α → Prop) (ts : List Token) (as : List α) : Prop :=
  ∃ parts : List (List Token × α), Separated (parts.map (·.1)) ts ∧
    (∀ part ∈ parts, writes part.1 part.2) ∧ as = parts.map (·.2)

namespace Listed

variable {writes : List Token → α → Prop}

theorem nil : Listed writes [] [] :=
  ⟨[], .nil, List.forall_mem_nil _, rfl⟩

theorem last {ts : List Token} {a : α} (h : writes ts a) : Listed writes ts [a] :=
  ⟨[(ts, a)], .last ts, List.forall_mem_singleton.mpr h, rfl⟩

theorem cons {ts rest : List Token} {a : α} {as : List α} (h : writes ts a)
    (hrest : Listed writes rest as) : Listed writes (ts ++ .comma :: rest) (a :: as) := by
  obtain ⟨parts, hseparated, hparts, rfl⟩ := hrest
  exact ⟨(ts, a) :: parts, .cons ts hseparated, List.forall_mem_cons.mpr ⟨h, hparts⟩, rfl⟩

end Listed

namespace Parser

/-! ### Tables of operators -/

/-- The table of the operators of a level that the parser has. -/
def operatorTable : Level → Token → Option BinaryOperator
  | .or => or?
  | .and => and?
  | .comparison => comparison?
  | .coalesce => coalesce?
  | .bitOr => bitOr?
  | .bitAnd => bitAnd?
  | .sum => additive?
  | .product => multiplicative?

/-- The parser's tables are those of the grammar. -/
theorem operatorTable_eq (level : Level) (token : Token) :
    operatorTable level token = level.operator? token := by
  cases level <;> cases token <;> rfl

theorem applyUnary_negate (e : Expr) : applyUnary .negate e = e.negated := by
  cases e <;> rfl

/-- The tokens that the parser takes away are related to its result. -/
def Takes (p : Parser α) (writes : List Token → α → Prop) : Prop :=
  ∀ ts, p.Yields ts fun a rest => ∃ used, ts = used ++ rest ∧ writes used a

/-- The tokens that the parser takes away are derived from the symbol and write its result. -/
abbrev Sound (p : Parser Expr) (s : Symbol) : Prop :=
  p.Takes (Derives s)

/-! ### Lists -/

section Lists

variable {writes : List Token → α → Prop} {entry : Parser α} {close : Token}

/-- A list that is closed at once has no members. -/
theorem yields_entriesUntil_of_close {ts : List Token} (h : nextToken ts = close) (fuel : Nat) :
    (entriesUntil close entry fuel).Yields ts fun as rest => as = [] ∧ rest = ts := by
  cases fuel with
  | zero => exact .pure ⟨rfl, rfl⟩
  | succ fuel =>
    rw [entriesUntil]
    refine .bind (.peek ?_)
    rw [if_pos h]
    exact .pure ⟨rfl, rfl⟩

theorem takes_entriesUntil (hentry : entry.Takes writes) (fuel : Nat) :
    (entriesUntil close entry fuel).Takes (Listed writes) := by
  induction fuel with
  | zero => exact fun ts => .pure ⟨[], rfl, .nil⟩
  | succ fuel ih =>
    intro ts
    rw [entriesUntil]
    refine .bind (.peek ?_)
    split
    · exact .pure ⟨[], rfl, .nil⟩
    · refine .bind ((hentry ts).mono ?_)
      rintro a mid ⟨used, rfl, ha⟩
      refine .bind (.peek ?_)
      dsimp only
      split
      · next hclose =>
        -- the list is closed after this member, so that no others follow
        refine .bind ((yields_entriesUntil_of_close hclose fuel).mono ?_)
        rintro as rest ⟨rfl, rfl⟩
        exact .pure ⟨used, rfl, .last ha⟩
      · refine .bind (.expect nofun ?_)
        rintro after rfl
        refine .bind ((ih after).mono ?_)
        rintro as rest ⟨used', rfl, has⟩
        exact .pure ⟨used ++ .comma :: used', by simp, .cons ha has⟩

/-- The members of a list and the token that closes it. -/
theorem yields_entries (close : Token) (hclose : close ≠ .eof) (hentry : entry.Takes writes)
    (ts : List Token) :
    (entries close entry).Yields ts fun as rest =>
      ∃ used, ts = used ++ close :: rest ∧ Listed writes used as := by
  refine .bind (.remaining (.bind ((takes_entriesUntil hentry _ ts).mono ?_)))
  rintro as mid ⟨used, rfl, has⟩
  refine .bind (.expect hclose ?_)
  rintro rest rfl
  exact .pure ⟨used, rfl, has⟩

end Lists

/-! ### Primary expressions -/

section Nested

variable {nested : Parser Expr} (hnested : nested.Sound .expression)

include hnested

/-- An entry of an object with its name. -/
theorem takes_field :
    (field nested).Takes fun ts f => Derives (.field f.1) ts f.2 := by
  intro ts
  refine .bind (.peek ?_)
  have hentry {token : Token} {name : String} (hname : token.keyName? = some name)
      (heq : nextToken ts = token) :
      (do advance; expect .colon; return (name, ← nested) : Parser (String × Expr)).Yields ts
        fun f rest => ∃ used, ts = used ++ rest ∧ Derives (.field f.1) used f.2 := by
    obtain ⟨rest, rfl⟩ := eq_cons_of_nextToken heq (by rintro rfl; cases hname)
    refine .bind (.advance (.bind (.expect nofun ?_)))
    rintro value rfl
    refine .bind ((hnested value).mono ?_)
    rintro e after ⟨used, rfl, he⟩
    exact .pure ⟨token :: .colon :: used, rfl, .field hname he⟩
  split
  · next key heq => exact hentry rfl heq
  · next key heq => exact hentry rfl heq
  · exact .missing

omit hnested in
/-- A token that is an expression on its own. -/
theorem yields_atom {ts : List Token} {token : Token} {e : Expr} (h : token.atom? = some e)
    (heq : nextToken ts = token) :
    (do advance; return e : Parser Expr).Yields ts fun e rest =>
      ∃ used, ts = used ++ rest ∧ Derives .primary used e := by
  obtain ⟨rest, rfl⟩ := eq_cons_of_nextToken heq (by rintro rfl; cases h)
  exact .bind (.advance (.pure ⟨[token], rfl, .atom h⟩))

theorem sound_primary : (primary nested).Sound .primary := by
  intro ts
  refine .bind (.peek ?_)
  split
  · next x heq => exact yields_atom rfl heq
  · next n heq => exact yields_atom rfl heq
  · next s heq => exact yields_atom rfl heq
  · next b heq => exact yields_atom rfl heq
  · next heq => exact yields_atom rfl heq
  · next heq => exact yields_atom rfl heq
  · next heq => exact yields_atom rfl heq
  · next name heq => exact yields_atom rfl heq
  · next type heq =>
    obtain ⟨rest, rfl⟩ := eq_cons_of_nextToken heq nofun
    refine .bind (.advance (.bind (.peek ?_)))
    dsimp only
    split
    · next hdot =>
      obtain ⟨rest, rfl⟩ := eq_cons_of_nextToken hdot nofun
      refine .bind (.advance (.bind (.identifier ?_)))
      rintro member rest rfl
      exact .pure ⟨_, rfl, .constant type member⟩
    · exact .bind .throw
  · next heq =>
    obtain ⟨rest, rfl⟩ := eq_cons_of_nextToken heq nofun
    refine .bind (.advance (.bind ((hnested rest).mono ?_)))
    rintro e mid ⟨used, rfl, he⟩
    refine .bind (.expect nofun ?_)
    rintro rest rfl
    exact .pure ⟨.lParen :: (used ++ [.rParen]), by simp, .parentheses he⟩
  · next heq =>
    obtain ⟨rest, rfl⟩ := eq_cons_of_nextToken heq nofun
    refine .bind (.advance (.bind ((yields_entries .rBrace nofun (takes_field hnested) rest).mono ?_)))
    rintro _ rest ⟨used, rfl, fields, hseparated, hfields, rfl⟩
    exact .pure ⟨.lBrace :: (used ++ [.rBrace]), by simp, .object fields hseparated hfields⟩
  · next heq =>
    obtain ⟨rest, rfl⟩ := eq_cons_of_nextToken heq nofun
    refine .bind (.advance (.bind ((yields_entries .rBracket nofun hnested rest).mono ?_)))
    rintro _ rest ⟨used, rfl, elements, hseparated, helements, rfl⟩
    exact .pure
      ⟨.lBracket :: (used ++ [.rBracket]), by simp, .array elements hseparated helements⟩
  · exact .unexpected

/-! ### Keys and calls -/

theorem sound_bracketKey : (bracketKey nested).Sound .key := by
  intro ts
  refine .bind (.peek ?_)
  split
  · next name heq =>
    obtain ⟨rest, rfl⟩ := eq_cons_of_nextToken heq nofun
    exact .bind (.advance (.pure ⟨[.identifier name], rfl, .key rfl⟩))
  · next name heq =>
    obtain ⟨rest, rfl⟩ := eq_cons_of_nextToken heq nofun
    exact .bind (.advance (.pure ⟨[.string name], rfl, .key rfl⟩))
  · next hidentifier hstring =>
    refine (hnested ts).mono ?_
    rintro e rest ⟨used, rfl, he⟩
    refine ⟨used, rfl, .computed ?_ he⟩
    -- the expression begins with the token at which the parser has looked
    obtain ⟨token, used, rfl, -⟩ := he.exists_cons
    cases token with
    | identifier name => exact absurd rfl (hidentifier name)
    | string name => exact absurd rfl (hstring name)
    | _ => rfl

/-- Keys and calls go on what stands before them. -/
theorem yields_suffixes (fuel : Nat) (object : Expr) (ts : List Token) :
    (suffixes nested fuel object).Yields ts fun e rest =>
      ∃ used, ts = used ++ rest ∧
        ∀ before, Derives .access before object → Derives .access (before ++ used) e := by
  induction fuel generalizing object ts with
  | zero => exact .pure ⟨[], rfl, fun before h => by rwa [List.append_nil]⟩
  | succ fuel ih =>
    rw [suffixes]
    refine .bind (.peek ?_)
    split
    · next heq =>
      obtain ⟨rest, rfl⟩ := eq_cons_of_nextToken heq nofun
      refine .bind (.advance (.bind ((sound_bracketKey hnested rest).mono ?_)))
      rintro key mid ⟨ks, rfl, hkey⟩
      refine .bind (.expect nofun ?_)
      rintro after rfl
      refine (ih (.access object key) after).mono ?_
      rintro e rest ⟨used, rfl, hused⟩
      refine ⟨.lBracket :: (ks ++ .rBracket :: used), by simp, fun before hbefore => ?_⟩
      have h := hused _ (.index hbefore hkey)
      simpa using h
    · next heq =>
      obtain ⟨rest, rfl⟩ := eq_cons_of_nextToken heq nofun
      refine .bind (.advance (.bind (.identifier ?_)))
      rintro name rest rfl
      refine .bind (.peek ?_)
      split
      · next hparen =>
        obtain ⟨rest, rfl⟩ := eq_cons_of_nextToken hparen nofun
        refine .bind (.advance (.bind ((yields_entries .rParen nofun hnested rest).mono ?_)))
        rintro _ after ⟨as, rfl, args, hseparated, hargs, rfl⟩
        refine (ih (.call object name (args.map (·.2))) after).mono ?_
        rintro e rest ⟨used, rfl, hused⟩
        refine ⟨.dot :: .identifier name :: .lParen :: (as ++ .rParen :: used), by simp,
          fun before hbefore => ?_⟩
        have h := hused _ (.call hbefore name args hseparated hargs)
        simpa using h
      · refine (ih (.access object (.key name)) rest).mono ?_
        rintro e rest ⟨used, rfl, hused⟩
        refine ⟨.dot :: .identifier name :: used, rfl, fun before hbefore => ?_⟩
        have h := hused _ (.member hbefore name)
        simpa using h
    · exact .pure ⟨[], rfl, fun before h => by rwa [List.append_nil]⟩

theorem sound_access : (access nested).Sound .access := by
  intro ts
  refine .bind ((sound_primary hnested ts).mono ?_)
  rintro object mid ⟨before, rfl, hobject⟩
  refine .bind (.remaining ((yields_suffixes hnested _ object mid).mono ?_))
  rintro e rest ⟨used, rfl, hused⟩
  exact ⟨before ++ used, by simp, hused before (.access hobject)⟩

/-! ### Operators -/

theorem sound_unary (fuel : Nat) : (unary nested fuel).Sound .unary := by
  induction fuel with
  | zero => exact fun ts => .unexpected
  | succ fuel ih =>
    intro ts
    rw [unary]
    refine .bind (.peek ?_)
    split
    · next heq =>
      obtain ⟨rest, rfl⟩ := eq_cons_of_nextToken heq nofun
      refine .bind (.advance (.bind ((ih rest).mono ?_)))
      rintro e rest ⟨used, rfl, he⟩
      exact .pure ⟨.not :: used, rfl, .not he⟩
    · next heq =>
      obtain ⟨rest, rfl⟩ := eq_cons_of_nextToken heq nofun
      refine .bind (.advance (.bind ((ih rest).mono ?_)))
      rintro e rest ⟨used, rfl, he⟩
      rw [applyUnary_negate]
      exact .pure ⟨.minus :: used, rfl, .negate he⟩
    · refine (sound_access hnested ts).mono ?_
      rintro e rest ⟨used, rfl, he⟩
      exact ⟨used, rfl, .unary he⟩

end Nested

section Levels

variable {level : Level} {operand : Parser Expr} (hoperand : operand.Sound level.operand)

include hoperand

/-- Operations of a level go on what stands before them. -/
theorem yields_operations (hleft : level.leftOperand = .operation level) (fuel : Nat)
    (left : Expr) (ts : List Token) :
    (operations operand (operatorTable level) fuel left).Yields ts fun e rest =>
      ∃ used, ts = used ++ rest ∧ ∀ before, Derives (.operation level) before left →
        Derives (.operation level) (before ++ used) e := by
  induction fuel generalizing left ts with
  | zero => exact .pure ⟨[], rfl, fun before h => by rwa [List.append_nil]⟩
  | succ fuel ih =>
    rw [operations]
    refine .bind (.peek ?_)
    rw [operatorTable_eq]
    split
    · exact .pure ⟨[], rfl, fun before h => by rwa [List.append_nil]⟩
    · next op hop =>
      cases ts with
      | nil => rw [nextToken_nil, level.operator?_eof] at hop; cases hop
      | cons token rest =>
        refine .bind (.advance (.bind ((hoperand rest).mono ?_)))
        rintro right after ⟨rights, rfl, hright⟩
        refine (ih (.binary op left right) after).mono ?_
        rintro e rest ⟨used, rfl, hused⟩
        refine ⟨token :: (rights ++ used), by simp, fun before hbefore => ?_⟩
        have h := hused _ (.operation (hleft ▸ hbefore) hop hright)
        simpa using h

theorem sound_leftAssociative (hleft : level.leftOperand = .operation level) :
    (leftAssociative operand (operatorTable level)).Sound (.operation level) := by
  intro ts
  refine .bind ((hoperand ts).mono ?_)
  rintro first mid ⟨before, rfl, hfirst⟩
  refine .bind (.remaining ((yields_operations hoperand hleft _ first mid).mono ?_))
  rintro e rest ⟨used, rfl, hused⟩
  exact ⟨before ++ used, by simp, hused before (.operand hfirst)⟩

end Levels

section Operators

variable {nested : Parser Expr} (hnested : nested.Sound .expression)

include hnested

theorem sound_operand : (operand nested).Sound (.operation .coalesce) := by
  have hfactor : (do unary nested (← remaining) : Parser Expr).Sound Level.product.operand :=
    fun ts => .bind (.remaining (sound_unary hnested _ ts))
  have hterm : Sound _ Level.sum.operand := sound_leftAssociative hfactor rfl
  have hsum : Sound _ Level.bitAnd.operand := sound_leftAssociative hterm rfl
  have hconjunct : Sound _ Level.bitOr.operand := sound_leftAssociative hsum rfl
  have hdisjunct : Sound _ Level.coalesce.operand := sound_leftAssociative hconjunct rfl
  exact sound_leftAssociative hdisjunct rfl

theorem sound_comparison : (comparison nested).Sound (.operation .comparison) := by
  intro ts
  refine .bind ((sound_operand hnested ts).mono ?_)
  rintro left mid ⟨lefts, rfl, hleft⟩
  refine .bind (.peek ?_)
  rw [show comparison? = operatorTable .comparison from rfl, operatorTable_eq]
  split
  · exact .pure ⟨lefts, rfl, .operand hleft⟩
  · next op hop =>
    cases mid with
    | nil => rw [nextToken_nil, Level.operator?_eof] at hop; cases hop
    | cons token rest =>
      refine .bind (.advance (.bind ((sound_operand hnested rest).mono ?_)))
      rintro right rest ⟨rights, rfl, hright⟩
      exact .pure ⟨lefts ++ token :: rights, by simp, .operation hleft hop hright⟩

theorem sound_disjunction : (disjunction nested).Sound .expression := by
  have hcomparison : (comparison nested).Sound Level.and.operand := sound_comparison hnested
  have hconjunction : Sound _ Level.or.operand := sound_leftAssociative hcomparison rfl
  exact sound_leftAssociative hconjunction rfl

end Operators

theorem sound_expressionWithin (depth : Nat) : (expressionWithin depth).Sound .expression := by
  induction depth with
  | zero => exact fun ts => .unexpected
  | succ depth ih => exact sound_disjunction ih

/-- The tokens that are read as an expression are derived as one. -/
theorem sound_expression : expression.Sound .expression :=
  fun ts => .bind (.remaining (sound_expressionWithin _ ts))

end Parser

end DocQuery
