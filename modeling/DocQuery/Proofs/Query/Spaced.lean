import DocQuery.Proofs.Query.ReadBack

/-!
# Tokens written apart from each other

Every token but a number with a fraction and the end of the text has a spelling, and strings have
several: either quote can be taken, and characters of layout can be escaped or not.  Blanks go on no
token, so tokens with a blank between each two are found again whatever stands next to what.

## Main definitions

* `Token.keywords`, `Token.signs` — the tokens that are always written the same way.
* `Token.QuotedAs` — how the content of a string is written between quotes.
* `Token.WrittenAs` — the spellings of a token.
* `Token.HasSpelling` — the tokens that have one.

## Main results

* `Token.WrittenAs.lexed` — a spelling in front of a blank writes its token.
* `scan_intercalate` — **the lexer inverts the spelling of tokens.**
-/

namespace DocQuery

open Text

namespace Token

/-- The words that are not free as names. -/
def keywords : List (String × Token) :=
  [("and", .and), ("or", .or), ("not", .not), ("true", .boolean true), ("false", .boolean false),
    ("null", .null)]

/-- The tokens that are written by signs. -/
def signs : List (String × Token) :=
  [("$", .dollar), ("@", .at), ("?", .question), ("~", .tilde), ("!", .exclamation),
    (":=", .colonEqual), ("|>", .pipe), ("==", .eqEq), ("!=", .notEq), ("<", .lt), (">", .gt),
    ("<=", .ltEq), (">=", .gtEq), ("+", .plus), ("-", .minus), ("*", .star), ("/", .slash),
    ("%", .percent), ("&", .ampersand), ("|", .bar), ("??", .questionQuestion), ("[", .lBracket),
    ("]", .rBracket), ("(", .lParen), (")", .rParen), ("\x7b", .lBrace), ("\x7d", .rBrace),
    (".", .dot), (",", .comma), (":", .colon)]

/-- The characters that have an escape in a string with these quotes, with the one that stands
behind the backslash. -/
def escapes (quote : Char) : List (Char × Char) :=
  [('\\', '\\'), (quote, quote), ('\n', 'n'), ('\t', 't'), ('\r', 'r')]

/-- The characters are written so between the quotes: a backslash and the quote itself are escaped,
and characters of layout may be. -/
inductive QuotedAs (quote : Char) : List Char → List Char → Prop
  | nil : QuotedAs quote [] []
  | plain {c : Char} {chars body : List Char} (hquote : c ≠ quote) (hbackslash : c ≠ '\\')
      (rest : QuotedAs quote chars body) : QuotedAs quote (c :: chars) (c :: body)
  | escaped {c e : Char} {chars body : List Char} (entry : (c, e) ∈ escapes quote)
      (rest : QuotedAs quote chars body) : QuotedAs quote (c :: chars) ('\\' :: e :: body)

/-- The text is a spelling of the token. -/
inductive WrittenAs : Token → String → Prop
  | keyword {word : String} {token : Token} (entry : (word, token) ∈ keywords) :
      WrittenAs token word
  | sign {sign : String} {token : Token} (entry : (sign, token) ∈ signs) : WrittenAs token sign
  | identifier {name : String} (hname : isName name = true)
      (free : name ∉ keywords.map Prod.fst) : WrittenAs (.identifier name) name
  | param {name : String} (hname : isName name = true) : WrittenAs (.param name) ("$" ++ name)
  | integer {n : Int64} (nonneg : 0 ≤ n.toInt) : WrittenAs (.integer n) (toString n.toInt)
  | string {s : String} {quote : Char} {body : List Char} (hquote : quote = '"' ∨ quote = '\'')
      (content : QuotedAs quote s.toList body) :
      WrittenAs (.string s) (String.ofList (quote :: (body ++ [quote])))

/-- The token is one of those that have a spelling.  An integer has a sign only by a token of its
own, and an identifier is a name that is no keyword. -/
def HasSpelling : Token → Prop
  | .float _ | .eof => False
  | .integer n => 0 ≤ n.toInt
  | .identifier name => isName name = true ∧ name ∉ keywords.map Prod.fst
  | .param name => isName name = true
  | _ => True

/-! ### Every such token has a spelling -/

theorem exists_quotedAs (quote : Char) (chars : List Char) : ∃ body, QuotedAs quote chars body := by
  induction chars with
  | nil => exact ⟨[], .nil⟩
  | cons c chars ih =>
    obtain ⟨body, hbody⟩ := ih
    by_cases hbackslash : c = '\\'
    · exact ⟨'\\' :: '\\' :: body, .escaped (by simp [escapes, hbackslash]) hbody⟩
    · by_cases hquote : c = quote
      · exact ⟨'\\' :: quote :: body, .escaped (by simp [escapes, hquote]) hbody⟩
      · exact ⟨c :: body, .plain hquote hbackslash hbody⟩

theorem HasSpelling.exists_writtenAs {token : Token} (h : token.HasSpelling) :
    ∃ word, token.WrittenAs word := by
  have hentry : token ∈ keywords.map Prod.snd ∨ token ∈ signs.map Prod.snd →
      ∃ word, token.WrittenAs word := by
    rintro (hmem | hmem)
    · obtain ⟨⟨word, _⟩, hentry, rfl⟩ := List.mem_map.mp hmem
      exact ⟨word, .keyword hentry⟩
    · obtain ⟨⟨word, _⟩, hentry, rfl⟩ := List.mem_map.mp hmem
      exact ⟨word, .sign hentry⟩
  cases token with
  | float | eof => exact h.elim
  | integer n => exact ⟨_, .integer h⟩
  | identifier name => exact ⟨_, .identifier h.1 h.2⟩
  | param name => exact ⟨_, .param h⟩
  | string s =>
    obtain ⟨body, hbody⟩ := exists_quotedAs '"' s.toList
    exact ⟨_, .string (.inl rfl) hbody⟩
  | boolean b => cases b <;> exact hentry (.inl (by decide))
  | null | and | or | not => exact hentry (.inl (by decide))
  | _ => exact hentry (.inr (by decide))

/-! ### Every spelling is read back -/

theorem unescape?_of_mem_escapes {quote c e : Char} (hquote : quote = '"' ∨ quote = '\'')
    (h : (c, e) ∈ escapes quote) : Cursor.unescape? e = some c := by
  simp only [escapes, List.mem_cons, Prod.mk.injEq, List.not_mem_nil, or_false] at h
  rcases h with ⟨rfl, rfl⟩ | ⟨rfl, rfl⟩ | ⟨rfl, rfl⟩ | ⟨rfl, rfl⟩ | ⟨rfl, rfl⟩
  -- only the escape of the quote depends on which quote it is
  case inr.inl => rcases hquote with rfl | rfl <;> rfl
  all_goals rfl

theorem QuotedAs.content {quote : Char} {chars body : List Char}
    (hquote : quote = '"' ∨ quote = '\'') (h : QuotedAs quote chars body) :
    Content quote body chars := by
  induction h with
  | nil => exact .nil
  | plain hc hbackslash _ ih => exact .plain hc hbackslash ih
  | escaped hentry _ ih => exact .escaped (unescape?_of_mem_escapes hquote hentry) ih

/-- A word that is no keyword is an identifier. -/
theorem word_of_notMem {name : String} (h : name ∉ keywords.map Prod.fst) :
    Cursor.word name = .identifier name := by
  simp only [keywords, List.map_cons, List.map_nil, List.mem_cons, not_or] at h
  unfold Cursor.word
  split <;> simp_all

theorem word_of_mem_keywords :
    ∀ entry ∈ keywords, isName entry.1 = true ∧ Cursor.word entry.1 = entry.2 := by
  decide +kernel

/-- Every sign but that of the document is found by its characters only. -/
theorem sign?_of_mem_signs : ∀ entry ∈ signs, entry = ("$", .dollar) ∨
    Cursor.sign? entry.1.toList = some (entry.2, entry.1.toList.length) := by
  decide +kernel

section Blank

variable {token : Token} {next : List Char} (hnext : ∀ c ∈ next.head?, isBlank c = true)

include hnext

theorem stops_of_blank {p : Char → Bool} (hp : ∀ c, isBlank c = true → p c = false) :
    Stops p next :=
  fun c hc => hp c (hnext c hc)

theorem ends_of_blank : Ends next := by
  refine ⟨stops_of_blank hnext fun _ => isNamePart_of_isBlank, ?_⟩
  rintro d more rfl
  exact absurd (hnext '.' rfl) (by decide)

/-- A sign in front of a blank does not go on. -/
theorem spelled_of_sign? {w : List Char} (h : Cursor.sign? w = some (token, w.length)) :
    Spelled token w next := by
  cases w with
  | nil => cases h
  | cons a rest =>
    rcases Cursor.sign?_eq_some_iff.mp h with ⟨b, more, rfl, hpair, hlength⟩ |
      ⟨-, hsingle, hlength⟩
    · obtain rfl : more = [] := by simpa using hlength
      exact .pair hpair
    · obtain rfl : rest = [] := by simpa using hlength
      exact .single hsingle fun b hb => Cursor.pair?_of_isBlank (hnext b hb)

/-- A spelling in front of a blank, or at the end, writes its token. -/
theorem WrittenAs.lexed {word : String} {ts : List Token} (h : token.WrittenAs word)
    (hrest : Lexed next ts) : Lexed (word.toList ++ next) (token :: ts) := by
  have hends := ends_of_blank hnext
  cases h with
  | keyword hentry =>
    obtain ⟨hname, hword⟩ := word_of_mem_keywords _ hentry
    exact (writes_word hname hword).lexed hends hrest
  | sign hentry =>
    rcases sign?_of_mem_signs _ hentry with heq | hsign
    · cases heq
      exact .spelled (.dollar (stops_of_blank hnext fun _ => isNameStart_of_isBlank)) hrest
    · exact .spelled (spelled_of_sign? hnext hsign) hrest
  | identifier hname hfree =>
    exact (writes_identifier ⟨hname, word_of_notMem hfree⟩).lexed hends hrest
  | param hname =>
    rw [String.toList_append]
    exact (writes_param hname).lexed hends hrest
  | integer hnonneg => exact (writes_integer hnonneg).lexed hends hrest
  | @string s quote body hquote hcontent =>
    have hspelled : Spelled (.string (String.ofList s.toList)) (quote :: (body ++ [quote])) next :=
      .string hquote (hcontent.content hquote)
    rw [String.ofList_toList] at hspelled
    rw [String.toList_ofList]
    exact .spelled hspelled hrest

end Blank

end Token

/-- Spellings with a blank between each two write their tokens. -/
theorem lexed_intercalate {ts : List Token} {words : List String}
    (h : List.Forall₂ Token.WrittenAs ts words) : Lexed (" ".intercalate words).toList ts := by
  induction h with
  | nil => exact .nil (List.forall_mem_nil _)
  | @cons token word ts words hword hrest ih =>
    cases hrest with
    | nil =>
      rw [String.toList_intercalate, List.map_singleton, List.intercalate_singleton,
        ← List.append_nil word.toList]
      exact hword.lexed (by simp) (.nil (List.forall_mem_nil _))
    | cons _ _ =>
      rw [String.intercalate_cons_cons, String.toList_append, String.toList_append,
        List.append_assoc]
      exact hword.lexed (fun c hc => by cases hc; decide) ih.blank

/-- **The lexer inverts the spelling of tokens.**  Tokens that have spellings can be written with a
blank between each two, and however each of them is spelled, the lexer finds exactly these tokens
and then the end of the text. -/
theorem scan_intercalate {ts : List Token} (hts : ∀ token ∈ ts, token.HasSpelling) :
    (∃ words, List.Forall₂ Token.WrittenAs ts words) ∧
      ∀ words, List.Forall₂ Token.WrittenAs ts words →
        (scan (" ".intercalate words)).Finds ts := by
  refine ⟨?_, fun words hwords => finds_of_lexed (lexed_intercalate hwords)⟩
  induction ts with
  | nil => exact ⟨[], .nil⟩
  | cons token ts ih =>
    obtain ⟨htoken, hts⟩ := List.forall_mem_cons.mp hts
    obtain ⟨word, hword⟩ := htoken.exists_writtenAs
    obtain ⟨words, hwords⟩ := ih hts
    exact ⟨word :: words, .cons hword hwords⟩

/-- Signs in a row, a parameter with the name of a keyword, and a string with both quotes. -/
theorem scan_intercalate_bar :
    (∀ token ∈ [.bar, .gt, .dollar, .param "and", .integer 0, .dot, .integer 7, .string "'\"\n"],
        Token.HasSpelling token) ∧
      (scan (" ".intercalate ["|", ">", "$", "$and", "0", ".", "7", "'\\'\"\\n'"])).Finds
        [.bar, .gt, .dollar, .param "and", .integer 0, .dot, .integer 7, .string "'\"\n"] := by
  have hts : ∀ token ∈ [.bar, .gt, .dollar, .param "and", .integer 0, .dot, .integer 7,
      .string "'\"\n"], Token.HasSpelling token := by
    simp only [List.forall_mem_cons, Token.HasSpelling]
    exact ⟨trivial, trivial, trivial, by decide, by decide, trivial, by decide, trivial,
      List.forall_mem_nil _⟩
  have hcontent : Token.QuotedAs '\'' ['\'', '"', '\n'] ['\\', '\'', '"', '\\', 'n'] :=
    .escaped (by decide) (.plain (by decide) (by decide) (.escaped (by decide) .nil))
  have hstring : Token.WrittenAs (.string "'\"\n") "'\\'\"\\n'" :=
    Token.WrittenAs.string (s := "'\"\n") (.inr rfl) hcontent
  refine ⟨hts, (scan_intercalate hts).2 _ ?_⟩
  exact .cons (.sign (by decide)) <| .cons (.sign (by decide)) <| .cons (.sign (by decide)) <|
    .cons (.param (by decide)) <| .cons (.integer (by decide)) <| .cons (.sign (by decide)) <|
    .cons (.integer (by decide)) <| .cons hstring .nil

end DocQuery
