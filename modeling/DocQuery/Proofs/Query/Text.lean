import DocQuery.Proofs.Query.Completeness
import DocQuery.Proofs.Query.Scan
import DocQuery.Proofs.Query.Simulation

/-!
# The syntax of whole texts

What a text is parsed to depends on the tokens alone that it writes: neither on where they stand
nor on the blanks between them.  A text that cannot be read into tokens to its end has no syntax.
An expression is accepted exactly if the tokens of the text are derived as one.

## Main definitions

* `Scan.tokens` — the tokens of a text, without its end.

## Main results

* `Parser.exists_lexed_of_parseText` — a text that has a syntax can be read into tokens.
* `Parser.parseText_congr`, `Parser.parseText_trim` — texts with the same tokens have the same
  syntax, and so do texts without the blanks around them.
* `Derives.unique` — the grammar is unambiguous.
* `Expr.parse_eq_ok_iff` — **the expression parser accepts exactly what its grammar derives.**
-/

namespace DocQuery

variable {α : Type}

/-! ### Inputs for texts -/

/-- The input for a text is at its first token. -/
theorem Scan.Finds.exists_ofScan {s : Scan} {ts : List Token} (h : s.Finds ts)
    (hne : Token.eof ∉ ts) : ∃ input, Input.ofScan s = .ok input ∧ input.Holds ts := by
  obtain ⟨lexemes, failure⟩ := s
  obtain ⟨hfailure, htokens⟩ := h
  cases lexemes with
  | nil => simp at htokens
  | cons first following =>
    exact ⟨⟨first, following, failure⟩, rfl, hfailure, htokens, hne⟩

theorem Lexed.exists_ofScan {text : String} {ts : List Token} (h : Lexed text.toList ts) :
    ∃ input, Input.ofScan (scan text) = .ok input ∧ input.Holds ts :=
  (finds_of_lexed h).exists_ofScan h.notMem

namespace Parser

theorem run_expect_of_eq {token : Token} {input : Input} (h : input.current.token = token) :
    (expect token).run input = advance.run input := by
  rw [expect, StateT.run_bind, run_peek, ok_bind]
  dsimp only
  rw [if_pos h]

/-- The end of the text is not passed. -/
theorem run_advance_of_nil {input : Input} (h : input.Holds []) :
    advance.run input = .ok ((), input) := by
  obtain ⟨current, following, failure⟩ := input
  obtain ⟨rfl, htokens, -⟩ := h
  obtain rfl := List.map_eq_nil_iff.mp (List.cons.inj htokens).2
  rfl

theorem run_expect_eof {input : Input} (h : input.Holds []) :
    (expect .eof).run input = .ok ((), input) := by
  have hcurrent : input.current.token = .eof := h.current_eq
  rw [run_expect_of_eq hcurrent]
  exact run_advance_of_nil h

theorem current_eq_of_run_expect {token : Token} {input last : Input}
    (h : (expect token).run input = .ok ((), last)) : input.current.token = token := by
  rw [expect, StateT.run_bind, run_peek, ok_bind] at h
  dsimp only at h
  split at h
  · next heq => exact heq
  · cases h

theorem eq_nil_of_current_eq_eof {input : Input} {ts : List Token} (h : input.Holds ts)
    (heof : input.current.token = .eof) : ts = [] := by
  cases ts with
  | nil => rfl
  | cons token rest =>
    rw [h.current_eq, nextToken_cons] at heof
    exact absurd (heof ▸ List.mem_cons_self) h.notMem

/-- A text is parsed if the parser gets to its end. -/
theorem parseText_eq_ok_iff {p : Parser α} {text : String} {a : α} :
    parseText p text = .ok a ↔ ∃ input after last, Input.ofScan (scan text) = .ok input ∧
      p.run input = .ok (a, after) ∧ (expect .eof).run after = .ok ((), last) := by
  rw [parseText, bind_eq_ok_iff]
  constructor
  · rintro ⟨input, hinput, h⟩
    obtain ⟨⟨b, final⟩, hrun, hb⟩ := bind_eq_ok_iff.mp h
    cases hb
    rw [StateT.run_bind] at hrun
    obtain ⟨⟨b, after⟩, hp, hrun⟩ := bind_eq_ok_iff.mp hrun
    rw [StateT.run_bind] at hrun
    obtain ⟨⟨⟨⟩, last⟩, hend, hpure⟩ := bind_eq_ok_iff.mp hrun
    cases hpure
    exact ⟨input, after, _, hinput, hp, hend⟩
  · rintro ⟨input, after, last, hinput, hp, hend⟩
    refine ⟨input, hinput, ?_⟩
    simp only [StateT.run_bind, hp, ok_bind, hend]
    rfl

/-! ### What does not matter -/

/-- An input of a text with a lexical error. -/
structure Failing (i j : Input) : Prop where
  eq : i = j
  failure : ∃ e, i.failure = some e
  notMem : Token.eof ∉ i.current.token :: i.following.map (·.token)

theorem simulation_failing : Simulation Failing fun _ _ => True where
  token h := by rw [h.eq]
  length h := by rw [h.eq]
  advance := by
    rintro ⟨current, following, failure⟩ _ ⟨rfl, ⟨e, rfl⟩, hnotMem⟩
    cases following with
    | nil => trivial
    | cons next following =>
      exact ⟨rfl, rfl, ⟨e, rfl⟩, fun hmem => hnotMem (List.mem_cons_of_mem _ hmem)⟩
  unexpected _ := trivial
  expected _ _ := trivial
  bareIdentifier _ := trivial
  unknownStage _ := trivial

theorem eof_notMem_of_failure {fuel : Nat} {c : Cursor} {e : LexError}
    (h : (scanFrom fuel c).failure = some e) :
    Token.eof ∉ (scanFrom fuel c).lexemes.map (·.token) := by
  induction fuel generalizing c with
  | zero => cases h
  | succ fuel ih =>
    rw [scanFrom] at h ⊢
    split at h
    · exact List.not_mem_nil
    · next token after _ =>
      split at h
      · cases h
      · next hne =>
        rw [if_neg hne]
        exact List.not_mem_cons_of_ne_of_not_mem (Ne.symm hne) (ih h)

theorem failing_of_ofScan {text : String} {e : LexError} (hfailure : (scan text).failure = some e)
    {input : Input} (h : Input.ofScan (scan text) = .ok input) : Failing input input := by
  have hnotMem : Token.eof ∉ (scan text).lexemes.map (·.token) := eof_notMem_of_failure hfailure
  generalize scan text = s at hfailure h hnotMem
  obtain ⟨lexemes, failure⟩ := s
  obtain rfl : failure = some e := hfailure
  cases lexemes with
  | nil => cases h
  | cons first following =>
    cases h
    exact ⟨rfl, ⟨e, rfl⟩, hnotMem⟩

/-- A text with a syntax can be read into tokens to its end. -/
theorem exists_lexed_of_parseText {p : Parser α} (hp : p.Uniform) {text : String} {a : α}
    (h : parseText p text = .ok a) : ∃ ts, Lexed text.toList ts := by
  obtain ⟨input, after, last, hinput, hrun, hend⟩ := parseText_eq_ok_iff.mp h
  cases hfailure : (scan text).failure with
  | none => exact exists_lexed_of_failure_eq_none hfailure
  | some e =>
    -- no end of the text is found
    exfalso
    have halike := hp _ _ simulation_failing input input (failing_of_ofScan hfailure hinput)
    rw [hrun] at halike
    obtain ⟨-, hafter⟩ := halike
    have heof := current_eq_of_run_expect hend
    exact hafter.notMem (heof ▸ List.mem_cons_self)

/-- Inputs with the same tokens, up to the end of their texts. -/
def SameTokens (i j : Input) : Prop :=
  ∃ ts, i.Holds ts ∧ j.Holds ts

theorem simulation_sameTokens : Simulation SameTokens fun _ _ => True where
  token := by
    rintro i j ⟨ts, hi, hj⟩
    rw [hi.current_eq, hj.current_eq]
  length := by
    rintro i j ⟨ts, hi, hj⟩
    rw [hi.length_following, hj.length_following]
  advance := by
    rintro i j ⟨ts, hi, hj⟩
    cases ts with
    | nil =>
      rw [run_advance_of_nil hi, run_advance_of_nil hj]
      exact ⟨rfl, [], hi, hj⟩
    | cons token ts =>
      obtain ⟨i', hrun, hi'⟩ := exists_run_advance hi
      obtain ⟨j', hrun', hj'⟩ := exists_run_advance hj
      rw [hrun, hrun']
      exact ⟨rfl, ts, hi', hj'⟩
  unexpected _ := trivial
  expected _ _ := trivial
  bareIdentifier _ := trivial
  unknownStage _ := trivial

/-- Texts that write the same tokens have the same syntax. -/
theorem parseText_congr {p : Parser α} (hp : p.Uniform) {text text' : String} {ts : List Token}
    (h : Lexed text.toList ts) (h' : Lexed text'.toList ts) {a : α}
    (hparse : parseText p text = .ok a) : parseText p text' = .ok a := by
  obtain ⟨input, after, last, hinput, hrun, hend⟩ := parseText_eq_ok_iff.mp hparse
  obtain ⟨_, hofScan, hholds⟩ := h.exists_ofScan
  obtain rfl := Except.ok.inj (hofScan.symm.trans hinput)
  obtain ⟨input', hinput', hholds'⟩ := h'.exists_ofScan
  have halike := hp _ _ simulation_sameTokens _ _ ⟨ts, hholds, hholds'⟩
  rw [hrun] at halike
  cases hrun' : p.run input' with
  | error e =>
    rw [hrun'] at halike
    exact halike.elim
  | ok result =>
    rw [hrun'] at halike
    obtain ⟨b, after'⟩ := result
    obtain ⟨rfl, rest, hafter, hafter'⟩ := halike
    obtain rfl := eq_nil_of_current_eq_eof hafter (current_eq_of_run_expect hend)
    exact parseText_eq_ok_iff.mpr ⟨input', after', after', hinput', hrun', run_expect_eof hafter'⟩

/-- A text without the blanks around it has the same syntax. -/
theorem parseText_trim {p : Parser α} (hp : p.Uniform) {text : String} {a : α} :
    parseText p (Text.trim text) = .ok a ↔ parseText p text = .ok a := by
  constructor
  · intro h
    obtain ⟨ts, hts⟩ := exists_lexed_of_parseText hp h
    exact parseText_congr hp hts (lexed_trim_iff.mp hts) h
  · intro h
    obtain ⟨ts, hts⟩ := exists_lexed_of_parseText hp h
    exact parseText_congr hp hts (lexed_trim_iff.mpr hts) h

end Parser

/-! ### Expressions -/

/-- **The grammar is unambiguous**: tokens are derived as one expression at most. -/
theorem Derives.unique {ts : List Token} {e e' : Expr} (heof : Token.eof ∉ ts)
    (h : Derives .expression ts e) (h' : Derives .expression ts e') : e = e' := by
  have hfinds : Scan.Finds ⟨(ts ++ [Token.eof]).map (⟨0, ·, 0⟩), none⟩ ts :=
    ⟨rfl, by simp [Function.comp_def]⟩
  obtain ⟨input, -, hholds⟩ := hfinds.exists_ofScan heof
  have hends : Symbol.expression.EndsBefore (nextToken []) :=
    Symbol.endsBefore_of_strength?_eq_none rfl _
  rw [← List.append_nil ts] at hholds
  obtain ⟨after, hrun, -⟩ := Parser.complete_expression h hends input hholds
  obtain ⟨after', hrun', -⟩ := Parser.complete_expression h' hends input hholds
  exact (Prod.mk.inj (Except.ok.inj (hrun.symm.trans hrun'))).1

/-- The expression parser accepts what the tokens of the text are derived as. -/
theorem Expr.parse_eq_ok_iff_lexed {text : String} {e : Expr} :
    Expr.parse text = .ok e ↔ ∃ ts, Lexed text.toList ts ∧ Derives .expression ts e := by
  constructor
  · intro h
    obtain ⟨ts, hts⟩ := Parser.exists_lexed_of_parseText Parser.uniform_expression h
    obtain ⟨input, after, last, hinput, hrun, hend⟩ := Parser.parseText_eq_ok_iff.mp h
    obtain ⟨_, hofScan, hholds⟩ := hts.exists_ofScan
    obtain rfl := Except.ok.inj (hofScan.symm.trans hinput)
    obtain ⟨rest, hafter, used, rfl, hderives⟩ :=
      Parser.sound_expression ts _ hholds e after hrun
    obtain rfl := Parser.eq_nil_of_current_eq_eof hafter (Parser.current_eq_of_run_expect hend)
    rw [List.append_nil] at hts
    exact ⟨used, hts, hderives⟩
  · rintro ⟨ts, hts, hderives⟩
    obtain ⟨input, hinput, hholds⟩ := hts.exists_ofScan
    have hends : Symbol.expression.EndsBefore (nextToken []) :=
      Symbol.endsBefore_of_strength?_eq_none rfl _
    obtain ⟨after, hrun, hafter⟩ := Parser.complete_expression hderives hends input
      (by rwa [List.append_nil])
    exact Parser.parseText_eq_ok_iff.mpr
      ⟨input, after, after, hinput, hrun, Parser.run_expect_eof hafter⟩

/-- The tokens that the lexer has found, without the end of the text. -/
def Scan.tokens (s : Scan) : List Token :=
  (s.lexemes.map (·.token)).dropLast

theorem Scan.Finds.tokens_eq {s : Scan} {ts : List Token} (h : s.Finds ts) : s.tokens = ts := by
  rw [Scan.tokens, h.tokens, List.dropLast_concat]

/-- **The expression parser accepts exactly its grammar.**  A text is the expression that its tokens
are derived as; it has none if they are not derived as any, or if the lexer stops before its end. -/
theorem Expr.parse_eq_ok_iff {text : String} {e : Expr} :
    Expr.parse text = .ok e ↔
      (scan text).failure = none ∧ Derives .expression (scan text).tokens e := by
  rw [Expr.parse_eq_ok_iff_lexed]
  constructor
  · rintro ⟨ts, hts, hderives⟩
    have hfinds := finds_of_lexed hts
    exact ⟨hfinds.failure, hfinds.tokens_eq.symm ▸ hderives⟩
  · rintro ⟨hfailure, hderives⟩
    obtain ⟨ts, hts⟩ := exists_lexed_of_failure_eq_none hfailure
    rw [(finds_of_lexed hts).tokens_eq] at hderives
    exact ⟨ts, hts, hderives⟩

end DocQuery
