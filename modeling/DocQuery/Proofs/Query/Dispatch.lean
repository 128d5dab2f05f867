import DocQuery.Proofs.Compile.Compiler
import DocQuery.Proofs.Query.Text
import Mathlib

/-!
# Queries and conditions told apart

A text is compiled as a query if it begins with the document sign and the statement sign occurs in
it.  Since its characters are looked at and not its tokens, a statement sign inside a string counts
as well.  That is the only way in which a text is taken for something else than what it is.

## Main definitions

* `QuotesStatementSign` — a text begins with the document sign and has the statement sign in a
  string.

## Main results

* `occursIn_statementSign_iff` — where the statement sign occurs in a text.
* `isQueryText_of_parse` — queries are taken for queries.
* `isQueryText_iff_of_parse` — conditions are taken for conditions, apart from the exception.
* `compile_trim_parse_error_iff` — **a text that is either is rejected in the exception only.**
-/

namespace DocQuery

open Text

/-- The sign in front of a statement, `|>`. -/
abbrev statementSign : List Char := ['|', '>']

/-! ### Where the sign occurs -/

theorem occursIn_cons_of_ne {c : Char} (h : c ≠ '|') (cs : List Char) :
    occursIn statementSign (c :: cs) = occursIn statementSign cs := by
  have hprefix : statementSign.isPrefixOf (c :: cs) = false := by
    rw [List.isPrefixOf_cons_cons, beq_eq_false_iff_ne.mpr (Ne.symm h), Bool.false_and]
  rw [occursIn, hprefix, Bool.false_or]

theorem occursIn_bar (cs : List Char) : occursIn statementSign ('|' :: cs) = true ↔
    '>' ∈ cs.head? ∨ occursIn statementSign cs = true := by
  have hprefix : statementSign.isPrefixOf ('|' :: cs) = true ↔ '>' ∈ cs.head? := by
    cases cs with
    | nil => decide
    | cons d cs =>
      rw [List.isPrefixOf_cons_cons, List.isPrefixOf_cons_cons, List.isPrefixOf_nil_left,
        beq_self_eq_true, Bool.true_and, Bool.and_true, beq_iff_eq, List.head?_cons,
        Option.mem_some, eq_comm]
  rw [occursIn, Bool.or_eq_true, hprefix]

theorem occursIn_append_of_notMem {w : List Char} (h : '|' ∉ w) (next : List Char) :
    occursIn statementSign (w ++ next) = occursIn statementSign next := by
  induction w with
  | nil => rfl
  | cons c w ih =>
    rw [List.mem_cons, not_or] at h
    rw [List.cons_append, occursIn_cons_of_ne (Ne.symm h.1), ih h.2]

/-- No escape writes a character of the sign. -/
theorem ne_of_unescape? {e c : Char} (h : Cursor.unescape? e = some c) :
    e ≠ '|' ∧ c ≠ '|' ∧ c ≠ '>' := by
  unfold Cursor.unescape? at h
  split at h <;> cases h <;> decide

/-- The sign occurs between the quotes of a string if it occurs in its content. -/
theorem occursIn_of_content {quote : Char} (hquote : quote = '"' ∨ quote = '\'')
    {body chars : List Char} (h : Content quote body chars) (next : List Char) :
    occursIn statementSign (body ++ quote :: next) = true ↔
      occursIn statementSign chars = true ∨ occursIn statementSign next = true := by
  have hbar : quote ≠ '|' := by rcases hquote with rfl | rfl <;> decide
  induction h with
  | nil =>
    rw [List.nil_append, occursIn_cons_of_ne hbar]
    simp [occursIn]
  | @plain c body chars hc hbackslash hrest ih =>
    rw [List.cons_append]
    by_cases heq : c = '|'
    · subst heq
      have hhead : '>' ∈ (body ++ quote :: next).head? ↔ '>' ∈ chars.head? := by
        cases hrest with
        | nil => rcases hquote with rfl | rfl <;> simp
        | plain _ _ _ => rfl
        | escaped hescape _ => simp [(ne_of_unescape? hescape).2.2]
      rw [occursIn_bar, occursIn_bar, hhead, or_assoc]
      exact or_congr_right ih
    · rw [occursIn_cons_of_ne heq, occursIn_cons_of_ne heq]
      exact ih
  | escaped hescape _ ih =>
    obtain ⟨he, hc, -⟩ := ne_of_unescape? hescape
    rw [List.cons_append, List.cons_append, occursIn_cons_of_ne (by decide),
      occursIn_cons_of_ne he, occursIn_cons_of_ne hc]
    exact ih

/-- The token writes the sign: it is the sign, or a string in which the sign occurs. -/
def Token.WritesSign (token : Token) : Prop :=
  token = .pipe ∨ ∃ s, token = .string s ∧ occursIn statementSign s.toList = true

theorem notMem_of_isNamePart {w : List Char} (h : ∀ c ∈ w, isNamePart c = true) : '|' ∉ w :=
  fun hmem => absurd (h '|' hmem) (by decide)

theorem not_writesSign_word (name : String) : ¬ (Cursor.word name).WritesSign := by
  unfold Cursor.word
  split <;> simp [Token.WritesSign]

theorem pair?_cases {a b : Char} {token : Token} (h : Cursor.pair? a b = some token) :
    a = '|' ∧ b = '>' ∧ token = .pipe ∨ a ≠ '|' ∧ b ≠ '|' ∧ ¬ token.WritesSign := by
  unfold Cursor.pair? at h
  split at h <;> cases h
  · exact .inl ⟨rfl, rfl, rfl⟩
  all_goals exact .inr ⟨by decide, by decide, by simp [Token.WritesSign]⟩

theorem not_writesSign_of_single? {a : Char} {token : Token} (h : Cursor.single? a = some token) :
    ¬ token.WritesSign := by
  unfold Cursor.single? at h
  split at h <;> cases h <;> simp [Token.WritesSign]

/-- The sign occurs in a spelling if the token writes it, and behind it if it occurs there. -/
theorem occursIn_of_spelled {token : Token} {w next : List Char} (h : Spelled token w next) :
    occursIn statementSign (w ++ next) = true ↔
      token.WritesSign ∨ occursIn statementSign next = true := by
  have hplain (hw : '|' ∉ w) (htoken : ¬ token.WritesSign) :
      occursIn statementSign (w ++ next) = true ↔
        token.WritesSign ∨ occursIn statementSign next = true := by
    rw [occursIn_append_of_notMem hw]
    exact (or_iff_right htoken).symm
  cases h with
  | param hname _ =>
    have hbar := notMem_of_isNamePart (Cursor.forall_mem_of_isNameChars hname)
    exact hplain (List.not_mem_cons_of_ne_of_not_mem (by decide) hbar) (by simp [Token.WritesSign])
  | dollar _ => exact hplain (by decide) (by simp [Token.WritesSign])
  | @string quote body chars _ hquote hcontent =>
    have hbar : quote ≠ '|' := by rcases hquote with rfl | rfl <;> decide
    rw [List.cons_append, List.append_assoc, occursIn_cons_of_ne hbar]
    rw [List.singleton_append, occursIn_of_content hquote hcontent]
    simp [Token.WritesSign]
  | @pair _ a b _ hsign =>
    rcases pair?_cases hsign with ⟨rfl, rfl, rfl⟩ | ⟨ha, hb, htoken⟩
    · rw [List.cons_append, occursIn_bar]
      exact iff_of_true (.inl rfl) (.inl (.inl rfl))
    · exact hplain (by simp [ha.symm, hb.symm]) htoken
  | @single _ a _ hsign hnext =>
    have htoken := not_writesSign_of_single? hsign
    by_cases ha : a = '|'
    · subst ha
      have hhead : '>' ∉ next.head? := fun hmem => by cases hnext '>' hmem
      rw [List.cons_append, List.nil_append, occursIn_bar, or_iff_right hhead,
        or_iff_right htoken]
    · exact hplain (by simp [Ne.symm ha]) htoken
  | word hname _ =>
    have hbar := notMem_of_isNamePart (Cursor.forall_mem_of_isNameChars hname)
    exact hplain hbar (not_writesSign_word _)
  | integer _ hdigits _ _ _ =>
    have hbar := notMem_of_isNamePart fun c hc => isNamePart_of_isDigit (hdigits c hc)
    exact hplain hbar (by simp [Token.WritesSign])
  | float _ hdigits _ hfraction _ =>
    have hbar := notMem_of_isNamePart fun c hc => isNamePart_of_isDigit (hdigits c hc)
    have hbar' := notMem_of_isNamePart fun c hc => isNamePart_of_isDigit (hfraction c hc)
    exact hplain (by simp [hbar, hbar']) (by simp [Token.WritesSign])

/-- **The statement sign occurs in a text** if it is one of the tokens, or occurs in a string. -/
theorem occursIn_statementSign_iff {cs : List Char} {ts : List Token} (h : Lexed cs ts) :
    occursIn statementSign cs = true ↔ ∃ token ∈ ts, token.WritesSign := by
  have hblank {blanks : List Char} (hblanks : ∀ b ∈ blanks, isBlank b = true) : '|' ∉ blanks :=
    fun hmem => absurd (hblanks '|' hmem) (by decide)
  induction h with
  | nil hblanks =>
    have hnil := occursIn_append_of_notMem (hblank hblanks) []
    rw [List.append_nil] at hnil
    simp [hnil, occursIn]
  | @cons blanks w next token ts hblanks hspelled _ ih =>
    rw [occursIn_append_of_notMem (hblank hblanks), occursIn_of_spelled hspelled,
      List.exists_mem_cons_iff]
    exact or_congr_right ih

/-! ### How texts begin -/

theorem head?_of_spelled_dollar {w next : List Char} (h : Spelled .dollar w next) :
    w.head? = some '$' := by
  generalize htoken : Token.dollar = token at h
  cases h with
  | dollar _ => rfl
  | pair hsign =>
    subst htoken
    unfold Cursor.pair? at hsign
    split at hsign <;> cases hsign
  | single hsign _ =>
    subst htoken
    unfold Cursor.single? at hsign
    split at hsign <;> cases hsign
  | word _ _ =>
    unfold Cursor.word at htoken
    split at htoken <;> cases htoken
  | _ => cases htoken

theorem Text.Stops.dropWhile_eq {p : Char → Bool} {cs : List Char} (h : Stops p cs) :
    cs.dropWhile p = cs := by
  cases cs with
  | nil => rfl
  | cons c cs => rw [List.dropWhile_cons, stops_cons.mp h, if_neg Bool.false_ne_true]

/-- The first token of a text begins with its first character that is not blank. -/
theorem Lexed.head?_trimStart {cs : List Char} {ts : List Token} (h : Lexed cs (.dollar :: ts)) :
    (trimStart cs).head? = some '$' := by
  cases h with
  | @cons blanks w next _ _ hblanks hspelled _ =>
    have hskip : trimStart (blanks ++ (w ++ next)) = w ++ next := by
      rw [trimStart, List.dropWhile_append_of_pos hblanks, (hspelled.solid.stops next).dropWhile_eq]
    rw [hskip, List.head?_append_of_ne_nil _ hspelled.solid.ne_nil]
    exact head?_of_spelled_dollar hspelled

/-- Blanks at the end do not change how a text begins. -/
theorem head?_trimStart_trim (text : String) :
    (trimStart (trim text).toList).head? = (trimStart text.toList).head? := by
  have hstops : Stops isBlank (trimStart text.toList) := stops_dropWhile isBlank text.toList
  rw [trim, String.toList_ofList]
  generalize trimStart text.toList = cs at hstops
  obtain ⟨behind, hsplit, hbehind⟩ := exists_trimEnd cs
  have hstops' : Stops isBlank (trimEnd cs) := by
    rw [hsplit] at hstops
    exact hstops.of_append
  rw [trimStart, hstops'.dropWhile_eq]
  cases hend : trimEnd cs with
  | nil =>
    rw [hend, List.nil_append] at hsplit
    cases cs with
    | nil => rfl
    | cons c cs =>
      -- all of it would be blank
      have hblank : isBlank c = true := hbehind c (by rw [← hsplit]; exact List.mem_cons_self)
      rw [stops_cons.mp hstops] at hblank
      cases hblank
  | cons c more =>
    rw [hend] at hsplit
    rw [hsplit]
    rfl

theorem isQueryText_iff_of_lexed {text : String} {ts : List Token} (h : Lexed text.toList ts) :
    isQueryText text = true ↔
      (trimStart text.toList).head? = some '$' ∧ ∃ token ∈ ts, token.WritesSign := by
  rw [isQueryText, Bool.and_eq_true, beq_iff_eq]
  exact and_congr_right fun _ => occursIn_statementSign_iff h

theorem isQueryText_trim_iff {text : String} {ts : List Token} (h : Lexed text.toList ts) :
    isQueryText (trim text) = true ↔ isQueryText text = true := by
  rw [isQueryText_iff_of_lexed h, isQueryText_iff_of_lexed (lexed_trim_iff.mpr h),
    head?_trimStart_trim]

/-! ### Queries -/

theorem Parser.Uniform.yields {α : Type} {p : Parser α} (hp : p.Uniform) (ts : List Token) :
    p.Yields ts fun _ _ => True := by
  intro input hinput a after hrun
  have halike := hp _ _ simulation_sameTokens input input ⟨ts, hinput, hinput⟩
  rw [hrun] at halike
  obtain ⟨-, rest, hafter, -⟩ := halike
  exact ⟨rest, hafter, trivial⟩

/-- A query is a document sign on its own, or has a statement sign behind it. -/
theorem Parser.yields_query (ts : List Token) :
    query.Yields ts fun q rest => ts = .dollar :: rest ∧ q.statements = [] ∨
      ∃ more, ts = .dollar :: .pipe :: more := by
  refine .bind (.expect nofun ?_)
  rintro rest rfl
  refine .bind (.remaining ?_)
  rw [statements]
  refine .bind (.bind (.peek ?_))
  split
  · next hpipe =>
    obtain ⟨more, rfl⟩ := eq_cons_of_nextToken hpipe nofun
    have hall : (do
        advance
        let first ← statement
        return first :: (← statements (more.length + 2)) : Parser (List Statement)).Uniform :=
      .bind .advance fun _ => .bind uniform_statement fun _ =>
        .bind (uniform_statements _) fun _ => .pure _
    exact (hall.yields _).mono fun _ _ _ => .pure (.inr ⟨more, rfl⟩)
  · exact .pure (.pure (.inl ⟨rfl, rfl⟩))

theorem Query.exists_lexed_of_parse {text : String} {q : Query} (h : Query.parse text = .ok q) :
    ∃ ts, Lexed text.toList ts ∧
      (ts = [.dollar] ∧ q.statements = [] ∨ ∃ more, ts = .dollar :: .pipe :: more) := by
  obtain ⟨ts, hts⟩ := Parser.exists_lexed_of_parseText Parser.uniform_query h
  obtain ⟨input, after, last, hinput, hrun, hend⟩ := Parser.parseText_eq_ok_iff.mp h
  obtain ⟨_, hofScan, hholds⟩ := hts.exists_ofScan
  obtain rfl := Except.ok.inj (hofScan.symm.trans hinput)
  obtain ⟨rest, hafter, hshape⟩ := Parser.yields_query ts _ hholds q after hrun
  obtain rfl := Parser.eq_nil_of_current_eq_eof hafter (Parser.current_eq_of_run_expect hend)
  exact ⟨ts, hts, hshape⟩

/-- A query with a statement is taken for a query. -/
theorem isQueryText_of_parse {text : String} {q : Query} (h : Query.parse text = .ok q)
    (hne : q.statements ≠ []) : isQueryText text = true := by
  obtain ⟨ts, hts, ⟨rfl, hnil⟩ | ⟨more, rfl⟩⟩ := Query.exists_lexed_of_parse h
  · exact absurd hnil hne
  · exact (isQueryText_iff_of_lexed hts).mpr ⟨hts.head?_trimStart, .pipe, by simp, .inl rfl⟩

/-! ### Conditions -/

theorem Separated.pipe_notMem {parts : List (List Token)} {ts : List Token}
    (h : Separated parts ts) (hparts : ∀ part ∈ parts, Token.pipe ∉ part) : Token.pipe ∉ ts := by
  induction h with
  | nil => exact List.not_mem_nil
  | last part => exact hparts part List.mem_cons_self
  | cons part _ ih =>
    obtain ⟨hpart, hrest⟩ := List.forall_mem_cons.mp hparts
    simp [hpart, ih hrest]

/-- No expression has a statement sign among its tokens. -/
theorem Derives.pipe_notMem {s : Symbol} {ts : List Token} {e : Expr} (h : Derives s ts e) :
    Token.pipe ∉ ts := by
  induction h with
  | operand _ ih | unary _ ih | access _ ih | computed _ _ ih => exact ih
  | @operation level _ _ token _ _ _ _ hop _ ihl ihr =>
    have hne : Token.pipe ≠ token := by
      rintro rfl
      cases level <;> cases hop
    simp [ihl, ihr, hne]
  | not _ ih | negate _ ih | parentheses _ ih => simp [ih]
  | index _ _ ih ihk => simp [ih, ihk]
  | member _ _ ih => simp [ih]
  | call _ _ args hseparated _ ih ihargs => simp [ih, hseparated.pipe_notMem (by simpa using ihargs)]
  | @atom token _ hatom =>
    have hne : Token.pipe ≠ token := by
      rintro rfl
      cases hatom
    simp [hne]
  | constant _ _ => simp
  | object fields hseparated _ ih => simp [hseparated.pipe_notMem (by simpa using ih)]
  | array elements hseparated _ ih => simp [hseparated.pipe_notMem (by simpa using ih)]
  | @field token _ _ _ hkey _ ih =>
    have hne : Token.pipe ≠ token := by
      rintro rfl
      cases hkey
    simp [hne, ih]
  | @key token _ hkey =>
    have hne : Token.pipe ≠ token := by
      rintro rfl
      cases hkey
    simp [hne]

/-- The text begins with the document sign, and the statement sign occurs in one of its strings. -/
def QuotesStatementSign (text : String) : Prop :=
  (trimStart text.toList).head? = some '$' ∧
    ∃ s, Token.string s ∈ (scan text).tokens ∧ occursIn statementSign s.toList = true

/-- A condition is taken for a query only if there is a statement sign in one of its strings. -/
theorem isQueryText_iff_of_parse {text : String} {e : Expr} (h : Expr.parse text = .ok e) :
    isQueryText text = true ↔ QuotesStatementSign text := by
  obtain ⟨ts, hts, hderives⟩ := Expr.parse_eq_ok_iff_lexed.mp h
  have hpipe := hderives.pipe_notMem
  rw [isQueryText_iff_of_lexed hts, QuotesStatementSign, (finds_of_lexed hts).tokens_eq]
  refine and_congr_right fun _ => ⟨?_, ?_⟩
  · rintro ⟨token, hmem, rfl | ⟨s, rfl, hs⟩⟩
    · exact absurd hmem hpipe
    · exact ⟨s, hmem, hs⟩
  · rintro ⟨s, hmem, hs⟩
    exact ⟨.string s, hmem, .inr ⟨s, rfl, hs⟩⟩

/-- A condition with a string in it is no query. -/
theorem Query.parse_ne_ok_of_parse {text : String} {e : Expr} (h : Expr.parse text = .ok e)
    (hquotes : QuotesStatementSign text) (q : Query) : Query.parse text ≠ .ok q := by
  intro hq
  obtain ⟨ts, hts, hderives⟩ := Expr.parse_eq_ok_iff_lexed.mp h
  obtain ⟨ts', hts', hshape⟩ := Query.exists_lexed_of_parse hq
  have heq : (scan text).tokens = ts := (finds_of_lexed hts).tokens_eq
  obtain rfl : ts = ts' := heq.symm.trans (finds_of_lexed hts').tokens_eq
  obtain ⟨-, s, hmem, -⟩ := hquotes
  rw [heq] at hmem
  rcases hshape with ⟨rfl, -⟩ | ⟨more, rfl⟩
  · simp at hmem
  · exact hderives.pipe_notMem (by simp)

/-! ### Compilation -/

section Compilation

variable {α β ε : Type}

/-- The compilation fails since the text has no syntax. -/
def FailsToParse (x : Except CompileError α) : Prop :=
  ∃ err, x = .error (.parse err)

theorem failsToParse_bind_iff {x : Except CompileError α} {f : α → Except CompileError β}
    (hf : ∀ a, ¬ FailsToParse (f a)) : FailsToParse (x >>= f) ↔ FailsToParse x := by
  cases x with
  | error err => simp [FailsToParse]
  | ok a =>
    refine iff_of_false (hf a) ?_
    rintro ⟨err, h⟩
    cases h

theorem failsToParse_mapError_iff {x : Except ParseError α} :
    FailsToParse (x.mapError .parse) ↔ ∀ a, x ≠ .ok a := by
  cases x with
  | error err => exact iff_of_true ⟨err, rfl⟩ fun a h => by cases h
  | ok a =>
    refine iff_of_false ?_ fun h => h a rfl
    rintro ⟨err, h⟩
    cases h

theorem not_failsToParse_mapError {f : ε → CompileError} (hf : ∀ e err, f e ≠ .parse err)
    (x : Except ε α) : ¬ FailsToParse (x.mapError f) := by
  rintro ⟨err, h⟩
  cases x with
  | error e => exact hf e err (Except.error.inj h)
  | ok a => cases h

theorem not_failsToParse_pure (a : α) : ¬ FailsToParse (pure a : Except CompileError α) := by
  rintro ⟨err, h⟩
  cases h

theorem lowering_ne_parse (e : LoweringError) (err : ParseError) :
    CompileError.lowering e ≠ .parse err := by
  intro h
  cases h

theorem argument_ne_parse (e : ArgumentError) (err : ParseError) :
    CompileError.argument e ≠ .parse err := by
  intro h
  cases h

theorem failsToParse_lowerText_iff {context : Context} {source : String} :
    FailsToParse (lowerText context source) ↔
      if isQueryText source then ∀ q, Query.parse source ≠ .ok q
      else ∀ e, Expr.parse source ≠ .ok e := by
  rw [lowerText]
  split
  · rw [failsToParse_bind_iff, failsToParse_mapError_iff]
    intro q
    rw [failsToParse_bind_iff fun _ => not_failsToParse_pure _]
    exact not_failsToParse_mapError lowering_ne_parse _
  · rw [failsToParse_bind_iff, failsToParse_mapError_iff]
    intro e
    rw [failsToParse_bind_iff fun _ => not_failsToParse_pure _]
    exact not_failsToParse_mapError lowering_ne_parse _

theorem not_failsToParse_runPass (asked : Bool)
    (pass : Pipeline → Except ArgumentError (Revised Pipeline)) (p : Pipeline) :
    ¬ FailsToParse (runPass asked pass p) := by
  rw [runPass]
  split
  · rw [failsToParse_bind_iff fun _ => not_failsToParse_pure _]
    exact not_failsToParse_mapError argument_ne_parse _
  · exact not_failsToParse_pure p

theorem failsToParse_compile_iff {context : Context} {options : CompileOptions} {source : String} :
    FailsToParse (compile context options source) ↔
      if isQueryText source then ∀ q, Query.parse source ≠ .ok q
      else ∀ e, Expr.parse source ≠ .ok e := by
  rw [compile, failsToParse_bind_iff, failsToParse_lowerText_iff]
  rintro ⟨shape, p⟩
  rw [failsToParse_bind_iff]
  · exact not_failsToParse_runPass _ _ _
  · intro p
    rw [failsToParse_bind_iff fun _ => not_failsToParse_pure _]
    exact not_failsToParse_runPass _ _ _

end Compilation

/-- The text is a condition, or a query with a statement. -/
def Accepted (text : String) : Prop :=
  (∃ e, Expr.parse text = .ok e) ∨ ∃ q, Query.parse text = .ok q ∧ q.statements ≠ []

/-- **A text that is a condition or a query with a statement is compiled as what it is**, whatever
blanks are around it, unless it is a condition with the statement sign in a string: that one is
rejected. -/
theorem failsToParse_compile_trim_iff {text : String} (h : Accepted text) (context : Context)
    (options : CompileOptions) :
    FailsToParse (compile context options (trim text)) ↔
      (∃ e, Expr.parse text = .ok e) ∧ QuotesStatementSign text := by
  have hquery (q : Query) : Query.parse (trim text) = .ok q ↔ Query.parse text = .ok q :=
    Parser.parseText_trim Parser.uniform_query
  have hexpr (e : Expr) : Expr.parse (trim text) = .ok e ↔ Expr.parse text = .ok e :=
    Parser.parseText_trim Parser.uniform_expression
  rw [failsToParse_compile_iff]
  simp only [ne_eq, hquery, hexpr]
  rcases h with ⟨e, he⟩ | ⟨q, hq, hne⟩
  · obtain ⟨ts, hts, -⟩ := Expr.parse_eq_ok_iff_lexed.mp he
    by_cases hquotes : QuotesStatementSign text
    · have hkind : isQueryText (trim text) = true :=
        (isQueryText_trim_iff hts).mpr ((isQueryText_iff_of_parse he).mpr hquotes)
      rw [if_pos hkind]
      exact iff_of_true (fun q hq => Query.parse_ne_ok_of_parse he hquotes q hq) ⟨⟨e, he⟩, hquotes⟩
    · have hkind : ¬ isQueryText (trim text) = true := fun h =>
        hquotes ((isQueryText_iff_of_parse he).mp ((isQueryText_trim_iff hts).mp h))
      rw [if_neg hkind]
      exact iff_of_false (fun h => h e he) fun h => hquotes h.2
  · obtain ⟨ts, hts, -⟩ := Query.exists_lexed_of_parse hq
    have hkind : isQueryText (trim text) = true :=
      (isQueryText_trim_iff hts).mpr (isQueryText_of_parse hq hne)
    rw [if_pos hkind]
    refine iff_of_false (fun h => h q hq) ?_
    rintro ⟨⟨e, he⟩, hquotes⟩
    exact Query.parse_ne_ok_of_parse he hquotes q hq

theorem failsToParse_map_iff {α β : Type} {x : Except CompileError α} {f : α → β} :
    FailsToParse (x.map f) ↔ FailsToParse x := by
  cases x with
  | error err => simp [FailsToParse, Except.map]
  | ok a =>
    refine iff_of_false ?_ ?_ <;>
    · rintro ⟨err, h⟩
      cases h

/-- **Queries and conditions are told apart, with one exception.**  A text that is a condition, or a
query with a statement, is taken for a query if it is one.  Otherwise that happens only if it begins
with the document sign and has the statement sign in a string, and then any compiler rejects it for
its syntax; there is no other text of these that is rejected so. -/
theorem told_apart {text : String} (h : Accepted text) :
    (isQueryText text = true ↔
      (∃ q, Query.parse text = .ok q ∧ q.statements ≠ []) ∨ QuotesStatementSign text) ∧
    ∀ context options requests choice serial, ∃ answer,
      ((Compiler.new context options).answers (requests ++ [.compile choice serial text])).getLast?
        = some answer ∧
      (FailsToParse answer ↔ (∃ e, Expr.parse text = .ok e) ∧ QuotesStatementSign text) := by
  constructor
  · constructor
    · intro hkind
      rcases h with ⟨e, he⟩ | hquery
      · exact .inr ((isQueryText_iff_of_parse he).mp hkind)
      · exact .inl hquery
    · rintro (⟨q, hq, hne⟩ | hquotes)
      · exact isQueryText_of_parse hq hne
      · rcases h with ⟨e, he⟩ | ⟨q, hq, hne⟩
        · exact (isQueryText_iff_of_parse he).mpr hquotes
        · exact isQueryText_of_parse hq hne
  · intro context options requests choice serial
    obtain ⟨answer, hlast, hcompiled⟩ :=
      Compiler.exists_getLast?_answers context options requests choice serial text
    refine ⟨answer, hlast, ?_⟩
    rw [← failsToParse_map_iff (f := Handle.compiled), hcompiled]
    exact failsToParse_compile_trim_iff h context options

/-- A query with blanks around it is taken for one, and is not rejected. -/
theorem told_apart_count : Accepted " $ |> count(\"n\")\n" ∧
    isQueryText " $ |> count(\"n\")\n" = true ∧
    ∀ context options requests choice serial, ∃ answer,
      ((Compiler.new context options).answers
        (requests ++ [.compile choice serial " $ |> count(\"n\")\n"])).getLast? = some answer ∧
      ¬ FailsToParse answer := by
  have hparse : Query.parse " $ |> count(\"n\")\n" = .ok ⟨[.count "n"]⟩ := by cbv
  have hquery : ∃ q, Query.parse " $ |> count(\"n\")\n" = .ok q ∧ q.statements ≠ [] :=
    ⟨_, hparse, List.cons_ne_nil _ _⟩
  have haccepted : Accepted " $ |> count(\"n\")\n" := .inr hquery
  have hcondition : ∀ e, Expr.parse " $ |> count(\"n\")\n" ≠ .ok e := by
    intro e he
    have herror : Expr.parse " $ |> count(\"n\")\n" = .error (.expected "Eof" .pipe 3) := by cbv
    rw [herror] at he
    cases he
  obtain ⟨hkind, hanswers⟩ := told_apart haccepted
  refine ⟨haccepted, hkind.mpr (.inl hquery), fun context options requests choice serial => ?_⟩
  obtain ⟨answer, hlast, hfails⟩ := hanswers context options requests choice serial
  exact ⟨answer, hlast, fun h => (hfails.mp h).1.elim hcondition⟩

/-- A condition that looks for the statement sign is taken for a query, and is rejected. -/
theorem condition_taken_for_query :
    Expr.parse "$.a == \"|>\"" = .ok (.binary .equal (.access .root (.key "a")) (.string "|>")) ∧
    isQueryText "$.a == \"|>\"" = true ∧
    compile .empty {} "$.a == \"|>\"" = .error (.parse (.expected "Eof" .dot 1)) := by
  refine ⟨?_, ?_, ?_⟩ <;> cbv

end DocQuery
