import DocQuery.Proofs.Query.Soundness

/-!
# Whatever is derived is read

From tokens that are derived from a symbol, its parser reads the expression that they write, and
stops where the derivation stops, provided that the token behind cannot go on the derivation.  All
bounds on loops and on the depth of brackets are large enough, since each round of a loop and each
pair of brackets takes a token of its own.

## Main definitions

* `Parser.Complete` — a parser reads what is derived from a symbol with fewer tokens than a bound.
* `Parser.Unrolls` — the rounds of a loop take it through some tokens.

## Main results

* `Parser.reads_entries` — entries of a list up to its closing token.
* `Parser.complete_leftAssociative`, `Parser.complete_primary`, … — the parsers of the levels.
* `Parser.complete_expression` — **the parser of expressions is complete.**
-/

namespace DocQuery

variable {α : Type}

namespace Parser

/-- From fewer than `n` tokens that write a result, the parser reads it, where a token follows that
cannot go on it. -/
def Finds (n : Nat) (p : Parser α) (writes : List Token → α → Prop) (ends : Token → Prop) : Prop :=
  ∀ ts a rest, writes ts a → ts.length < n → ends (nextToken rest) → p.Reads (ts ++ rest) a rest

/-- From fewer than `n` tokens that are derived from the symbol, the parser reads what they
write. -/
abbrev Complete (n : Nat) (p : Parser Expr) (s : Symbol) : Prop :=
  p.Finds n (Derives s) s.EndsBefore

/-! ### Lists -/

section Lists

variable {n : Nat} {writes : List Token → α → Prop} {ends : Token → Prop} {entry : Parser α}
  {close : Token}

theorem reads_entriesUntil_nil (fuel : Nat) (rest : List Token) :
    (entriesUntil close entry fuel).Reads (close :: rest) [] (close :: rest) := by
  cases fuel with
  | zero => exact .pure [] _
  | succ fuel =>
    rw [entriesUntil]
    refine .bind (.peek _) ?_
    rw [nextToken_cons, if_pos rfl]
    exact .pure [] _

theorem reads_entriesUntil (hentry : entry.Finds n writes ends) (hcomma : ends .comma)
    (hclose : ends close) (hne : Token.comma ≠ close)
    (hbegin : ∀ ts a, writes ts a → ∃ token rest, ts = token :: rest ∧ token ≠ close)
    (parts : List (List Token × α)) (fuel : Nat) (ts rest : List Token)
    (hseparated : Separated (parts.map (·.1)) ts) (hparts : ∀ part ∈ parts, writes part.1 part.2)
    (hlength : ts.length < n) (hfuel : parts.length ≤ fuel) :
    (entriesUntil close entry fuel).Reads (ts ++ close :: rest) (parts.map (·.2))
      (close :: rest) := by
  induction parts generalizing fuel ts with
  | nil =>
    obtain rfl := hseparated.eq_nil
    exact reads_entriesUntil_nil fuel rest
  | cons part parts ih =>
    obtain ⟨used, a⟩ := part
    obtain ⟨fuel, rfl⟩ : ∃ k, fuel = k + 1 := ⟨fuel - 1, by simp at hfuel; omega⟩
    obtain ⟨ha, hparts⟩ := List.forall_mem_cons.mp hparts
    rw [entriesUntil]
    refine .bind (.peek _) ?_
    have hopen (more : List Token) : nextToken (used ++ more) ≠ close := by
      obtain ⟨token, used, rfl, htoken⟩ := hbegin used a ha
      exact htoken
    obtain ⟨hnil, rfl⟩ | ⟨others, rfl, hothers⟩ := hseparated.cons_inv
    · -- the last part, with the closing token behind it
      obtain rfl := List.map_eq_nil_iff.mp hnil
      rw [if_neg (hopen _)]
      refine .bind (hentry _ a _ ha hlength hclose) (.bind (.peek _) ?_)
      rw [nextToken_cons, if_pos rfl]
      exact .bind (reads_entriesUntil_nil fuel rest) (.pure [a] _)
    · have hlength : used.length + (others.length + 1) < n := by
        rwa [List.length_append] at hlength
      rw [List.append_assoc, if_neg (hopen _), List.cons_append]
      refine .bind (hentry used a _ ha (by omega) hcomma) (.bind (.peek _) ?_)
      rw [nextToken_cons, if_neg hne]
      refine .bind (.expect .comma _) ?_
      exact .bind (ih fuel others hothers hparts (by omega) (Nat.le_of_succ_le_succ hfuel))
        (.pure _ _)

/-- The members of a list and the token that closes it. -/
theorem reads_entries (close : Token) (hentry : entry.Finds n writes ends) (hcomma : ends .comma)
    (hclose : ends close) (hne : Token.comma ≠ close)
    (hbegin : ∀ ts a, writes ts a → ∃ token rest, ts = token :: rest ∧ token ≠ close)
    (parts : List (List Token × α)) {ts : List Token} (rest : List Token)
    (hseparated : Separated (parts.map (·.1)) ts) (hparts : ∀ part ∈ parts, writes part.1 part.2)
    (hlength : ts.length < n) :
    (entries close entry).Reads (ts ++ close :: rest) (parts.map (·.2)) rest := by
  have hfuel : parts.length ≤ (ts ++ close :: rest).length + 2 := by
    have hle := hseparated.length_le
    rw [List.length_map] at hle
    rw [List.length_append]
    omega
  refine .bind (.remaining _) ?_
  refine .bind (reads_entriesUntil hentry hcomma hclose hne hbegin parts _ ts rest hseparated
    hparts hlength hfuel) ?_
  exact .bind (.expect close rest) (.pure _ _)

end Lists

/-- What is derived does not begin with a token that no derivation begins with. -/
theorem exists_cons_ne {s : Symbol} {close : Token} (hclose : ¬ s.CanBegin close)
    {ts : List Token} {e : Expr} (h : Derives s ts e) :
    ∃ token rest, ts = token :: rest ∧ token ≠ close := by
  obtain ⟨token, rest, rfl, hbegin⟩ := h.exists_cons
  exact ⟨token, rest, rfl, fun heq => hclose (heq ▸ hbegin)⟩

/-! ### Loops -/

/-- A loop goes from one expression to another through the tokens, with at most one round for each
of them, where a token follows at which a round can end. -/
def Unrolls (loop : Nat → Expr → Parser Expr) (ends : Token → Prop) (e : Expr)
    (used : List Token) (e' : Expr) : Prop :=
  ∃ k, k ≤ used.length ∧ ∀ rest, ends (nextToken rest) → ends (nextToken (used ++ rest)) ∧
    ∀ fuel out final, (loop fuel e').Reads rest out final →
      (loop (fuel + k) e).Reads (used ++ rest) out final

namespace Unrolls

variable {loop : Nat → Expr → Parser Expr} {ends : Token → Prop} {e e' e'' : Expr}
  {used : List Token}

theorem refl (e : Expr) : Unrolls loop ends e [] e :=
  ⟨0, Nat.le_refl 0, fun _ hends => ⟨hends, fun _ _ _ h => h⟩⟩

/-- One more round, which begins with a token at which the round before it can end. -/
theorem concat (h : Unrolls loop ends e used e') {token : Token} {more : List Token}
    (htoken : ends token)
    (hround : ∀ fuel rest out final, ends (nextToken rest) →
      (loop fuel e'').Reads rest out final →
      (loop (fuel + 1) e').Reads (token :: (more ++ rest)) out final) :
    Unrolls loop ends e (used ++ token :: more) e'' := by
  obtain ⟨k, hk, hloop⟩ := h
  refine ⟨1 + k, ?_, fun rest hrest => ?_⟩
  · rw [List.length_append, List.length_cons]
    omega
  · obtain ⟨hends, hread⟩ := hloop (token :: (more ++ rest)) htoken
    rw [List.append_assoc, List.cons_append]
    refine ⟨hends, fun fuel out final hfinal => ?_⟩
    rw [← Nat.add_assoc]
    exact hread (fuel + 1) out final (hround fuel rest out final hrest hfinal)

/-- What stands before the loop can end at its tokens, too. -/
theorem endsBefore (h : Unrolls loop ends e used e') {rest : List Token}
    (hends : ends (nextToken rest)) : ends (nextToken (used ++ rest)) := by
  obtain ⟨k, -, hloop⟩ := h
  exact (hloop rest hends).1

/-- With a round for each token the loop reads all of them, if it stops behind them. -/
theorem reads (h : Unrolls loop ends e used e') {rest : List Token} (hends : ends (nextToken rest))
    (hstop : ∀ fuel, (loop fuel e').Reads rest e' rest) {fuel : Nat} (hfuel : used.length ≤ fuel) :
    (loop fuel e).Reads (used ++ rest) e' rest := by
  obtain ⟨k, hk, hloop⟩ := h
  have hread := (hloop rest hends).2 (fuel - k) e' rest (hstop (fuel - k))
  rwa [Nat.sub_add_cancel (Nat.le_trans hk hfuel)] at hread

end Unrolls

/-! ### Primary expressions -/

section Nested

variable {n : Nat} {nested : Parser Expr} (hnested : nested.Complete n .expression)

include hnested

/-- An entry of an object with its name. -/
theorem finds_field :
    (field nested).Finds n (fun ts f => Derives (.field f.1) ts f.2)
      (Symbol.EndsBefore .expression) := by
  rintro ts ⟨name, e⟩ rest h hlength hends
  cases h with
  | @field token _ used _ hkey hvalue =>
    rw [List.length_cons, List.length_cons] at hlength
    have hread : (do advance; expect .colon; return (name, ← nested) : Parser _).Reads
        (token :: .colon :: (used ++ rest)) (name, e) rest :=
      .bind (.advance _ _) (.bind (.expect .colon _)
        (.bind (hnested used e rest hvalue (by omega) hends) (.pure _ _)))
    refine .bind (.peek _) ?_
    cases token <;> cases hkey <;> exact hread

theorem complete_primary : (primary nested).Complete (n + 1) .primary := by
  intro ts e rest h hlength _
  refine .bind (.peek _) ?_
  cases h with
  | @atom token _ hatom => cases token <;> cases hatom <;> exact .bind (.advance _ _) (.pure _ _)
  | constant type member =>
    refine .bind (.advance _ _) (.bind (.peek _) ?_)
    exact .bind (.advance _ _) (.bind (.identifier _ member rest) (.pure _ _))
  | @parentheses used _ hinside =>
    rw [List.length_cons, List.length_append] at hlength
    rw [List.cons_append, List.append_assoc]
    refine .bind (.advance _ _) (.bind ?_ (.bind (.expect .rParen rest) (.pure _ _)))
    exact hnested used e _ hinside (by omega) (Symbol.endsBefore_of_strength?_eq_none rfl _)
  | object fields hseparated hfields =>
    rw [List.length_cons, List.length_append] at hlength
    rw [List.cons_append, List.append_assoc]
    refine .bind (.advance _ _) (.bind ?_ (.pure _ _))
    refine reads_entries .rBrace (finds_field hnested) (Symbol.endsBefore_of_strength?_eq_none rfl _)
      (Symbol.endsBefore_of_strength?_eq_none rfl _) nofun ?_ fields rest hseparated hfields
      (by omega)
    exact fun _ f hf => exists_cons_ne (by simp [Symbol.CanBegin, Token.opens]) hf
  | array elements hseparated helements =>
    rw [List.length_cons, List.length_append] at hlength
    rw [List.cons_append, List.append_assoc]
    refine .bind (.advance _ _) (.bind ?_ (.pure _ _))
    refine reads_entries .rBracket hnested (Symbol.endsBefore_of_strength?_eq_none rfl _)
      (Symbol.endsBefore_of_strength?_eq_none rfl _) nofun ?_ elements rest hseparated helements
      (by omega)
    exact fun _ _ he => exists_cons_ne (by simp [Symbol.CanBegin, Token.opens]) he

/-! ### Keys and calls -/

theorem complete_bracketKey : (bracketKey nested).Complete n .key := by
  intro ts e rest h hlength hends
  refine .bind (.peek _) ?_
  cases h with
  | @key token _ hname =>
    cases token <;> cases hname <;> exact .bind (.advance _ _) (.pure _ _)
  | computed hnotName hvalue =>
    have hread := hnested ts e rest hvalue hlength hends
    obtain ⟨token, used, rfl, -⟩ := hvalue.exists_cons
    split
    · next heq => cases heq; cases hnotName
    · next heq => cases heq; cases hnotName
    · exact hread

omit hnested in
/-- Where nothing goes on an object, no more keys and calls are read. -/
theorem reads_suffixes_nil (fuel : Nat) (object : Expr) {rest : List Token}
    (h : Symbol.access.EndsBefore (nextToken rest)) :
    (suffixes nested fuel object).Reads rest object rest := by
  cases fuel with
  | zero => exact .pure object rest
  | succ fuel =>
    rw [suffixes]
    refine .bind (.peek rest) ?_
    split
    · next heq => exact absurd (h 8 (by rw [heq]; rfl)) (Nat.lt_irrefl 8)
    · next heq => exact absurd (h 8 (by rw [heq]; rfl)) (Nat.lt_irrefl 8)
    · exact .pure object rest

/-- What is derived as an object with keys and calls has an object on its own in front, and the
loop goes through the keys and calls. -/
theorem exists_suffixes {ts : List Token} {e : Expr} (h : Derives .access ts e)
    (hlength : ts.length < n + 1) :
    ∃ first used object, ts = first ++ used ∧ Derives .primary first object ∧
      Unrolls (suffixes nested) (· ≠ .lParen) object used e := by
  have hbracket : Token.lBracket ≠ .lParen := by decide
  have hdot : Token.dot ≠ .lParen := by decide
  generalize hs : Symbol.access = s at h
  induction h with
  | @access ts e hprimary _ => exact ⟨ts, [], e, by simp, hprimary, .refl e⟩
  | @index ts ks e key _ hkey ih _ =>
    simp only [List.length_append, List.length_cons] at hlength
    obtain ⟨first, used, object, rfl, hfirst, hused⟩ := ih (by omega) rfl
    refine ⟨first, used ++ .lBracket :: (ks ++ [.rBracket]), object, by simp, hfirst,
      hused.concat hbracket fun fuel rest out final _ h => ?_⟩
    have hends : Symbol.key.EndsBefore .rBracket := Symbol.endsBefore_of_strength?_eq_none rfl _
    rw [suffixes, List.append_assoc]
    refine .bind (.peek _) (.bind (.advance _ _) ?_)
    refine .bind (complete_bracketKey hnested ks key (.rBracket :: rest) hkey (by omega) hends) ?_
    exact .bind (.expect .rBracket rest) h
  | @member ts e _ name ih =>
    rw [List.length_append] at hlength
    obtain ⟨first, used, object, rfl, hfirst, hused⟩ := ih (by omega) rfl
    refine ⟨first, used ++ [.dot, .identifier name], object, by simp, hfirst,
      hused.concat hdot fun fuel rest out final hrest h => ?_⟩
    rw [suffixes]
    refine .bind (.peek _) (.bind (.advance _ _) (.bind (.identifier _ name rest) ?_))
    refine .bind (.peek rest) ?_
    rw [if_neg hrest]
    exact h
  | @call ts as e _ method args hseparated hargs ih _ =>
    simp only [List.length_append, List.length_cons] at hlength
    obtain ⟨first, used, object, rfl, hfirst, hused⟩ := ih (by omega) rfl
    refine ⟨first, used ++ .dot :: .identifier method :: .lParen :: (as ++ [.rParen]), object,
      by simp, hfirst, hused.concat hdot fun fuel rest out final _ h => ?_⟩
    have hcomma : Symbol.expression.EndsBefore .comma :=
      Symbol.endsBefore_of_strength?_eq_none rfl _
    have hclose : Symbol.expression.EndsBefore .rParen :=
      Symbol.endsBefore_of_strength?_eq_none rfl _
    have hbegin : ¬ Symbol.expression.CanBegin .rParen := by simp [Symbol.CanBegin, Token.opens]
    rw [suffixes, List.cons_append, List.cons_append, List.append_assoc]
    refine .bind (.peek _) (.bind (.advance _ _) (.bind (.identifier _ method _) ?_))
    refine .bind (.peek _) ?_
    rw [nextToken_cons, if_pos rfl]
    refine .bind (.advance _ _) (.bind ?_ h)
    exact reads_entries .rParen hnested hcomma hclose (by decide)
      (fun _ _ => exists_cons_ne hbegin) args rest hseparated hargs (by omega)
  | _ => cases hs

theorem complete_access : (access nested).Complete (n + 1) .access := by
  intro ts e rest h hlength hends
  obtain ⟨first, used, object, rfl, hfirst, hused⟩ := exists_suffixes hnested h hlength
  have hrest : nextToken rest ≠ .lParen := fun heq =>
    absurd (hends 8 (by rw [heq]; rfl)) (Nat.lt_irrefl 8)
  have hprimary : Symbol.primary.EndsBefore (nextToken (used ++ rest)) := by
    intro strength hstrength
    cases hnext : nextToken (used ++ rest) <;> rw [hnext] at hstrength <;> cases hstrength <;>
      decide
  rw [List.length_append] at hlength
  rw [List.append_assoc]
  refine .bind (complete_primary hnested first object _ hfirst (by omega) hprimary) ?_
  refine .bind (.remaining _) ?_
  refine hused.reads hrest (fun fuel => reads_suffixes_nil fuel e hends) ?_
  rw [List.length_append]
  omega

/-! ### Operators -/

theorem complete_unary (fuel : Nat) (ts : List Token) (e : Expr) (rest : List Token)
    (h : Derives .unary ts e) (hlength : ts.length < n + 1) (hfuel : ts.length ≤ fuel)
    (hends : Symbol.unary.EndsBefore (nextToken rest)) :
    (unary nested fuel).Reads (ts ++ rest) e rest := by
  induction fuel generalizing ts e with
  | zero =>
    obtain ⟨token, used, rfl, -⟩ := h.exists_cons
    rw [List.length_cons] at hfuel
    omega
  | succ fuel ih =>
    rw [unary]
    refine .bind (.peek _) ?_
    cases h with
    | @not ts e hoperand =>
      rw [List.length_cons] at hlength hfuel
      refine .bind (.advance _ _) ?_
      exact .bind (ih ts e hoperand (by omega) (by omega)) (.pure _ _)
    | @negate ts e hoperand =>
      rw [List.length_cons] at hlength hfuel
      rw [← applyUnary_negate]
      refine .bind (.advance _ _) ?_
      exact .bind (ih ts e hoperand (by omega) (by omega)) (.pure _ _)
    | unary haccess =>
      have hread := complete_access hnested ts e rest haccess hlength hends
      -- an object begins with no operator
      obtain ⟨token, used, rfl, hopens | ⟨-, hne, -⟩⟩ := haccess.exists_cons
      · split
        · next heq => cases heq; cases hopens
        · next heq => cases heq; cases hopens
        · exact hread
      · exact absurd rfl hne

end Nested

section Levels

variable {n : Nat} {level : Level} {operand : Parser Expr}
  (hoperand : operand.Complete n level.operand)

/-- Where no operator of the level stands, no more operations are read. -/
theorem reads_operations_nil (fuel : Nat) (left : Expr) {rest : List Token}
    (h : level.operator? (nextToken rest) = none) :
    (operations operand (operatorTable level) fuel left).Reads rest left rest := by
  cases fuel with
  | zero => exact .pure left rest
  | succ fuel =>
    rw [operations]
    refine .bind (.peek rest) ?_
    rw [operatorTable_eq, h]
    exact .pure left rest

include hoperand

/-- What is derived on a level has an operand in front, and the loop goes through the operators
behind it with their right operands. -/
theorem exists_operations (hleft : level.leftOperand = .operation level) {ts : List Token}
    {e : Expr} (h : Derives (.operation level) ts e) (hlength : ts.length < n) :
    ∃ first used left, ts = first ++ used ∧ Derives level.operand first left ∧
      Unrolls (operations operand (operatorTable level)) level.operand.EndsBefore left used e := by
  generalize hs : Symbol.operation level = s at h
  induction h with
  | @operand level' ts e hderives _ =>
    cases hs
    exact ⟨ts, [], e, by simp, hderives, .refl e⟩
  | @operation level' lefts rights token op l r _ hop hright ih _ =>
    cases hs
    simp only [List.length_append, List.length_cons] at hlength
    obtain ⟨first, used, left, rfl, hfirst, hused⟩ := ih (by omega) hleft.symm
    refine ⟨first, used ++ token :: rights, left, by simp, hfirst,
      hused.concat (Symbol.endsBefore_of_operator hop) fun fuel rest out final hends h => ?_⟩
    rw [operations]
    refine .bind (.peek _) ?_
    rw [nextToken_cons, operatorTable_eq, hop]
    exact .bind (.advance _ _) (.bind (hoperand rights r rest hright (by omega) hends) h)
  | _ => cases hs

theorem complete_leftAssociative (hleft : level.leftOperand = .operation level) :
    (leftAssociative operand (operatorTable level)).Complete n (.operation level) := by
  intro ts e rest h hlength hends
  obtain ⟨first, used, left, rfl, hfirst, hused⟩ := exists_operations hoperand hleft h hlength
  have hrest : level.operand.EndsBefore (nextToken rest) := Symbol.endsBefore_operand hends
  have hmid : level.operand.EndsBefore (nextToken (used ++ rest)) := hused.endsBefore hrest
  rw [List.length_append] at hlength
  rw [List.append_assoc]
  refine .bind (hoperand first left _ hfirst (by omega) hmid) ?_
  refine .bind (.remaining _) ?_
  refine hused.reads hrest (fun fuel => reads_operations_nil fuel e hends.operator?_eq_none) ?_
  rw [List.length_append]
  omega

end Levels

section Operators

variable {n : Nat} {nested : Parser Expr} (hnested : nested.Complete n .expression)

include hnested

theorem complete_operand : (operand nested).Complete (n + 1) (.operation .coalesce) := by
  have hfactor : (do unary nested (← remaining) : Parser Expr).Complete (n + 1)
      Level.product.operand := by
    intro ts e rest h hlength hends
    refine .bind (.remaining _) (complete_unary hnested _ ts e rest h hlength ?_ hends)
    rw [List.length_append]
    omega
  have hterm : Complete (n + 1) _ Level.sum.operand := complete_leftAssociative hfactor rfl
  have hsum : Complete (n + 1) _ Level.bitAnd.operand := complete_leftAssociative hterm rfl
  have hconjunct : Complete (n + 1) _ Level.bitOr.operand := complete_leftAssociative hsum rfl
  have hdisjunct : Complete (n + 1) _ Level.coalesce.operand := complete_leftAssociative hconjunct rfl
  exact complete_leftAssociative hdisjunct rfl

theorem complete_comparison : (comparison nested).Complete (n + 1) (.operation .comparison) := by
  intro ts e rest h hlength hends
  have hoperand := complete_operand hnested
  cases h with
  | operand hderives =>
    refine .bind (hoperand ts e rest hderives hlength (Symbol.endsBefore_operand hends)) ?_
    refine .bind (.peek rest) ?_
    rw [show comparison? = operatorTable .comparison from rfl, operatorTable_eq,
      hends.operator?_eq_none]
    exact .pure e rest
  | @operation _ lefts rights token op l r hleft hop hright =>
    simp only [List.length_append, List.length_cons] at hlength
    rw [List.append_assoc, List.cons_append]
    have hmid : Level.comparison.operand.EndsBefore token := Symbol.endsBefore_of_operator hop
    refine .bind (hoperand lefts l _ hleft (by omega) hmid) ?_
    refine .bind (.peek _) ?_
    rw [nextToken_cons, show comparison? = operatorTable .comparison from rfl, operatorTable_eq,
      hop]
    refine .bind (.advance _ _) ?_
    exact .bind (hoperand rights r rest hright (by omega) (Symbol.endsBefore_operand hends))
      (.pure _ _)

theorem complete_disjunction : (disjunction nested).Complete (n + 1) .expression := by
  have hcomparison : (comparison nested).Complete (n + 1) Level.and.operand :=
    complete_comparison hnested
  have hconjunction : Complete (n + 1) _ Level.or.operand := complete_leftAssociative hcomparison rfl
  exact complete_leftAssociative hconjunction rfl

end Operators

theorem complete_expressionWithin (depth : Nat) :
    (expressionWithin depth).Complete depth .expression := by
  induction depth with
  | zero => exact fun ts e rest _ hlength => absurd hlength (Nat.not_lt_zero _)
  | succ depth ih => exact complete_disjunction ih

/-- The tokens that are derived as an expression are read as one, whatever follows that cannot go
on it. -/
theorem complete_expression {ts rest : List Token} {e : Expr} (h : Derives .expression ts e)
    (hends : Symbol.expression.EndsBefore (nextToken rest)) :
    expression.Reads (ts ++ rest) e rest := by
  have hlength : ts.length < (ts ++ rest).length + 2 := by
    rw [List.length_append]
    omega
  exact .bind (.remaining _) (complete_expressionWithin _ ts e rest h hlength hends)

end Parser

end DocQuery
