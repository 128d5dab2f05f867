import DocQuery.Command.Line
import DocQuery.Proofs.Query.Dispatch

/-!
# Checking the syntax of a query

The command `compile` can be asked to check the syntax of a query only.  It then parses the text as
it was given; otherwise the text is parsed without the blanks around it, and it is asked of that
text whether it is a query.  Both ways accept the same texts: a text that the lexer gets through
writes the same tokens with and without the blanks, and any other text is rejected both ways.

## Main definitions

* `HasSyntax` — a text can be parsed as what it is taken for.
* `LineError.IsSyntax` — a command has failed since its query cannot be parsed.

## Main results

* `hasSyntax_trim_iff` — blanks around a text do not matter.
* `executeCompile_syntaxOnly_iff` — **the check accepts what is compiled without an error of
  syntax.**
-/

namespace DocQuery

open Text

/-- The text is taken for a query and can be parsed as one, or it is taken for a condition and can
be parsed as that. -/
inductive HasSyntax (text : String) : Prop
  | query (kind : isQueryText text = true) {q : Query} (parsed : Query.parse text = .ok q)
  | condition (kind : isQueryText text = false) {e : Expr} (parsed : Expr.parse text = .ok e)

/-- The command has failed since the text of its query cannot be parsed. -/
def LineError.IsSyntax : LineError → Prop
  | .parse _ => True
  | .compile (.parse _) => True
  | _ => False

/-! ### Blanks around a text -/

theorem HasSyntax.exists_lexed {text : String} (h : HasSyntax text) :
    ∃ ts, Lexed text.toList ts := by
  cases h with
  | query _ hq => exact Parser.exists_lexed_of_parseText Parser.uniform_query hq
  | condition _ he => exact Parser.exists_lexed_of_parseText Parser.uniform_expression he

theorem hasSyntax_iff_of_isQueryText {text : String} (h : isQueryText text = true) :
    HasSyntax text ↔ ∃ q, Query.parse text = .ok q := by
  constructor
  · intro hsyntax
    cases hsyntax with
    | query _ hq => exact ⟨_, hq⟩
    | condition hkind _ => rw [h] at hkind; cases hkind
  · rintro ⟨q, hq⟩
    exact .query h hq

theorem hasSyntax_iff_of_not_isQueryText {text : String} (h : isQueryText text = false) :
    HasSyntax text ↔ ∃ e, Expr.parse text = .ok e := by
  constructor
  · intro hsyntax
    cases hsyntax with
    | query hkind _ => rw [h] at hkind; cases hkind
    | condition _ he => exact ⟨_, he⟩
  · rintro ⟨e, he⟩
    exact .condition h he

theorem hasSyntax_trim_iff_of_lexed {text : String} {ts : List Token}
    (h : Lexed text.toList ts) : HasSyntax (trim text) ↔ HasSyntax text := by
  have hquery (q : Query) : Query.parse (trim text) = .ok q ↔ Query.parse text = .ok q :=
    Parser.parseText_trim Parser.uniform_query
  have hexpr (e : Expr) : Expr.parse (trim text) = .ok e ↔ Expr.parse text = .ok e :=
    Parser.parseText_trim Parser.uniform_expression
  have hkind : isQueryText (trim text) = isQueryText text :=
    Bool.eq_iff_iff.mpr (isQueryText_trim_iff h)
  cases htext : isQueryText text with
  | true =>
    rw [htext] at hkind
    simp only [hasSyntax_iff_of_isQueryText hkind, hasSyntax_iff_of_isQueryText htext, hquery]
  | false =>
    rw [htext] at hkind
    simp only [hasSyntax_iff_of_not_isQueryText hkind, hasSyntax_iff_of_not_isQueryText htext,
      hexpr]

/-- A text has a syntax exactly if it has one without the blanks around it. -/
theorem hasSyntax_trim_iff {text : String} : HasSyntax (trim text) ↔ HasSyntax text := by
  constructor
  · intro h
    obtain ⟨ts, htrim⟩ := h.exists_lexed
    have hts : Lexed text.toList ts := lexed_trim_iff.mp htrim
    exact (hasSyntax_trim_iff_of_lexed hts).mp h
  · intro h
    obtain ⟨ts, hts⟩ := h.exists_lexed
    exact (hasSyntax_trim_iff_of_lexed hts).mpr h

/-! ### The two ways -/

theorem checkSyntax_eq_ok_iff {text : String} : checkSyntax text = .ok () ↔ HasSyntax text := by
  cases hkind : isQueryText text with
  | true =>
    rw [checkSyntax, if_pos hkind, hasSyntax_iff_of_isQueryText hkind]
    cases Query.parse text <;> simp
  | false =>
    rw [checkSyntax, if_neg (by simp [hkind]), hasSyntax_iff_of_not_isQueryText hkind]
    cases Expr.parse text <;> simp

/-- The check succeeds on the texts that have a syntax. -/
theorem exists_executeCompile_eq_ok_iff {request : CompileRequest}
    (h : request.syntaxOnly = true) :
    (∃ answer, executeCompile request = .ok answer) ↔ HasSyntax request.query := by
  rw [← checkSyntax_eq_ok_iff, executeCompile, if_pos h]
  cases checkSyntax request.query with
  | error e => simp [Except.mapError]
  | ok a => simp [Except.mapError]

/-- A text without a syntax cannot be compiled, and its syntax is what the compilation fails for. -/
theorem failsToParse_compile_iff_not_hasSyntax {context : Context} {options : CompileOptions}
    {source : String} : FailsToParse (compile context options source) ↔ ¬ HasSyntax source := by
  rw [failsToParse_compile_iff]
  cases hkind : isQueryText source with
  | true =>
    rw [hasSyntax_iff_of_isQueryText hkind, if_pos rfl]
    exact not_exists.symm
  | false =>
    rw [hasSyntax_iff_of_not_isQueryText hkind, if_neg Bool.false_ne_true]
    exact not_exists.symm

theorem LineError.isSyntax_compile_iff {e : CompileError} :
    (LineError.compile e).IsSyntax ↔ ∃ err, e = .parse err := by
  cases e <;> simp [LineError.IsSyntax]

/-- The command fails for the syntax of its query exactly if the query has none. -/
theorem isSyntax_executeCompile_iff {request : CompileRequest} {context : Context}
    (h : request.syntaxOnly = false)
    (hdefine : Context.define request.parameters request.constants = .ok context) :
    (∃ e, executeCompile request = .error e ∧ e.IsSyntax) ↔ ¬ HasSyntax request.query := by
  let options : CompileOptions := { coalesce := request.optimize, cache := false }
  have hrun : executeCompile request
      = (do
        let compiled ← (compile context options (trim request.query)).mapError .compile
        return some (commandFor request.collection compiled)) := by
    simp only [executeCompile, compileOnce, h, hdefine, Except.mapError, ok_bind, options,
      Bool.false_eq_true, if_false]
  have hfails : FailsToParse (compile context options (trim request.query)) ↔
      ¬ HasSyntax request.query := by
    rw [failsToParse_compile_iff_not_hasSyntax, hasSyntax_trim_iff]
  rw [hrun, ← hfails, FailsToParse]
  cases compile context options (trim request.query) with
  | error e => simp [Except.mapError, LineError.isSyntax_compile_iff]
  | ok compiled => simp [Except.mapError]

/-- **The check of the syntax agrees with the compilation.**  With definitions that can be read, the
check succeeds exactly if the compilation of the same text does not fail for its syntax, whatever
blanks are around the text. -/
theorem executeCompile_syntaxOnly_iff {request : CompileRequest} {context : Context}
    (hdefine : Context.define request.parameters request.constants = .ok context) :
    (∃ answer, executeCompile { request with syntaxOnly := true } = .ok answer) ↔
      ∀ e, executeCompile { request with syntaxOnly := false } = .error e → ¬ e.IsSyntax := by
  let check : CompileRequest := { request with syntaxOnly := true }
  let full : CompileRequest := { request with syntaxOnly := false }
  have hcheck : (∃ answer, executeCompile check = .ok answer) ↔ HasSyntax request.query :=
    exists_executeCompile_eq_ok_iff rfl
  have hfull : (∃ e, executeCompile full = .error e ∧ e.IsSyntax) ↔ ¬ HasSyntax request.query :=
    isSyntax_executeCompile_iff rfl hdefine
  rw [hcheck, ← not_iff_not, ← hfull]
  simp only [not_forall, not_not, exists_prop, full]

theorem exists_eq_ok_of_isOk {ε α : Type} {x : Except ε α} (h : x.isOk = true) :
    ∃ a, x = .ok a := by
  cases x with
  | error e => cases h
  | ok a => exact ⟨a, rfl⟩

/-- A query with blanks around it that cannot be compiled, though not for its syntax. -/
theorem executeCompile_syntaxOnly_negativeSkip :
    let request : CompileRequest :=
      ⟨"\u3000$ |> skip(-1)\n", "documents", ["$least = 3"], ["Kind.A=1"], true, false⟩
    (∃ context, Context.define request.parameters request.constants = .ok context) ∧
    (∃ answer, executeCompile { request with syntaxOnly := true } = .ok answer) ∧
    (executeCompile { request with syntaxOnly := false }).isOk = false ∧
    ∀ e, executeCompile { request with syntaxOnly := false } = .error e → ¬ e.IsSyntax := by
  intro request
  obtain ⟨context, hdefine⟩ :
      ∃ context, Context.define request.parameters request.constants = .ok context :=
    exists_eq_ok_of_isOk (by decide +kernel)
  have hcheck : ∃ answer, executeCompile { request with syntaxOnly := true } = .ok answer :=
    exists_eq_ok_of_isOk (by decide +kernel)
  refine ⟨⟨context, hdefine⟩, hcheck, by decide +kernel, ?_⟩
  exact (executeCompile_syntaxOnly_iff hdefine).mp hcheck

end DocQuery
