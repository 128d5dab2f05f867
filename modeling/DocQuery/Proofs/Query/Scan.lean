import DocQuery.Proofs.Query.Spelling

/-!
# Texts as rows of tokens

A text writes a row of tokens if it consists of their spellings, with blanks in front of them and
at the end.  The lexer finds the tokens of a text exactly if the text writes them, and blanks
around a text do not matter to it.

## Main definitions

* `Lexed` — the characters write the tokens.
* `Scan.Finds` — the lexer has got through with these tokens.

## Main results

* `scan_finds_iff` — **the lexer finds the tokens that a text writes.**
* `lexed_trim_iff` — a text without the blanks around it writes the same tokens.
-/

namespace DocQuery

open Text

/-! ### Blanks -/

namespace Text

theorem Ranges.has_iff {ranges : Ranges} {c : Char} :
    ranges.has c = true ↔ ∃ r ∈ ranges, r.1 ≤ c.toNat ∧ c.toNat ≤ r.2 := by
  simp only [Ranges.has, List.any_eq_true, Bool.and_eq_true, decide_eq_true_eq]

/-- A blank character belongs to no name. -/
theorem isNamePart_of_isBlank {c : Char} (h : isBlank c = true) : isNamePart c = false := by
  have hcodes : ∀ n ∈ blankRanges.flatMap fun r => List.range' r.1 (r.2 + 1 - r.1),
      isNamePart (Char.ofNat n) = false := by decide +kernel
  obtain ⟨r, hr, hfirst, hlast⟩ := Ranges.has_iff.mp h
  have hmem : c.toNat ∈ List.range' r.1 (r.2 + 1 - r.1) := by
    rw [List.mem_range'_1]
    omega
  have hnamePart := hcodes c.toNat (List.mem_flatMap.mpr ⟨r, hr, hmem⟩)
  rwa [Char.ofNat_toNat] at hnamePart

theorem isBlank_of_isNamePart {c : Char} (h : isNamePart c = true) : isBlank c = false := by
  by_contra hblank
  rw [isNamePart_of_isBlank (Bool.not_eq_false _ ▸ hblank)] at h
  cases h

theorem isNamePart_of_isDigit {c : Char} (h : c.isDigit = true) : isNamePart c = true := by
  have hdigit := toNat_of_isDigit h
  rw [isNamePart, isAlphanumeric, isNumeric, if_pos (by omega), h, Bool.or_true, Bool.true_or]

end Text

theorem Cursor.isBlank_of_single? {a : Char} {token : Token} (h : Cursor.single? a = some token) :
    isBlank a = false := by
  unfold Cursor.single? at h
  split at h <;> first | decide | cases h

theorem Cursor.isBlank_of_pair? {a b : Char} {token : Token}
    (h : Cursor.pair? a b = some token) : isBlank a = false ∧ isBlank b = false := by
  unfold Cursor.pair? at h
  split at h <;> first | decide | cases h

/-! ### The ends of a spelling -/

/-- There are characters, and neither the first nor the last one is blank. -/
structure Solid (w : List Char) : Prop where
  ne_nil : w ≠ []
  head : ∀ c ∈ w.head?, isBlank c = false
  last : ∀ c ∈ w.getLast?, isBlank c = false

theorem Solid.of_forall {w : List Char} (hne : w ≠ []) (h : ∀ c ∈ w, isBlank c = false) :
    Solid w :=
  ⟨hne, fun c hc => h c (List.mem_of_mem_head? hc), fun c hc => h c (List.mem_of_mem_getLast? hc)⟩

/-- Blanks in front of them end where they begin. -/
theorem Solid.stops {w : List Char} (h : Solid w) (next : List Char) : Stops isBlank (w ++ next) := by
  obtain ⟨c, rest, rfl⟩ := List.exists_cons_of_ne_nil h.ne_nil
  exact stops_cons.mpr (h.head c rfl)

namespace Spelled

variable {token : Token} {w next : List Char}

theorem ne_eof (h : Spelled token w next) : token ≠ .eof := by
  cases h with
  | pair hsign =>
    rintro rfl
    unfold Cursor.pair? at hsign
    split at hsign <;> cases hsign
  | single hsign _ =>
    rintro rfl
    unfold Cursor.single? at hsign
    split at hsign <;> cases hsign
  | word _ _ =>
    unfold Cursor.word
    split <;> exact nofun
  | _ => exact nofun

/-- A spelling neither begins nor ends with a blank. -/
theorem solid (h : Spelled token w next) : Solid w := by
  cases h with
  | param hname _ =>
    refine .of_forall nofun (List.forall_mem_cons.mpr ⟨by decide, fun c hc => ?_⟩)
    exact isBlank_of_isNamePart (Cursor.forall_mem_of_isNameChars hname c hc)
  | dollar _ => exact .of_forall nofun (List.forall_mem_singleton.mpr (by decide))
  | string hquote _ =>
    have hblank : ∀ quote : Char, quote = '"' ∨ quote = '\'' → isBlank quote = false := by
      rintro _ (rfl | rfl) <;> decide
    refine ⟨nofun, fun c hc => ?_, fun c hc => ?_⟩
    · cases hc
      exact hblank _ hquote
    · rw [← List.cons_append, List.getLast?_concat] at hc
      cases hc
      exact hblank _ hquote
  | pair hsign =>
    obtain ⟨ha, hb⟩ := Cursor.isBlank_of_pair? hsign
    exact .of_forall nofun (by simp [ha, hb])
  | single hsign _ => exact .of_forall nofun (by simp [Cursor.isBlank_of_single? hsign])
  | word hname _ =>
    refine .of_forall (by rintro rfl; cases hname) fun c hc => ?_
    exact isBlank_of_isNamePart (Cursor.forall_mem_of_isNameChars hname c hc)
  | integer hne hdigits _ _ _ =>
    exact .of_forall hne fun c hc => isBlank_of_isNamePart (isNamePart_of_isDigit (hdigits c hc))
  | float hne hdigits _ hfractionDigits _ =>
    refine .of_forall (by simp) fun c hc => ?_
    rcases List.mem_append.mp hc with hc | hc
    · exact isBlank_of_isNamePart (isNamePart_of_isDigit (hdigits c hc))
    · rcases List.mem_cons.mp hc with rfl | hc
      · decide
      · exact isBlank_of_isNamePart (isNamePart_of_isDigit (hfractionDigits c hc))

end Spelled

/-! ### Rows of tokens -/

/-- The characters write the tokens: they are spelled one after the other, with blanks in front of
them and at the end. -/
inductive Lexed : List Char → List Token → Prop
  | nil {blanks : List Char} (hblanks : ∀ c ∈ blanks, isBlank c = true) : Lexed blanks []
  | cons {blanks w next : List Char} {token : Token} {ts : List Token}
      (hblanks : ∀ c ∈ blanks, isBlank c = true) (spelled : Spelled token w next)
      (rest : Lexed next ts) : Lexed (blanks ++ (w ++ next)) (token :: ts)

theorem Lexed.notMem {cs : List Char} {ts : List Token} (h : Lexed cs ts) : Token.eof ∉ ts := by
  induction h with
  | nil _ => exact List.not_mem_nil
  | cons _ hspelled _ ih => exact List.not_mem_cons_of_ne_of_not_mem hspelled.ne_eof.symm ih

/-- The lexer has got to the end of the text, and has found the tokens in front of it. -/
structure Scan.Finds (s : Scan) (ts : List Token) : Prop where
  failure : s.failure = none
  tokens : s.lexemes.map (·.token) = ts ++ [.eof]

theorem Cursor.skipBlanks_of_append {c : Cursor} {blanks next : List Char}
    (hrest : c.rest = blanks ++ next) (hblanks : ∀ b ∈ blanks, isBlank b = true)
    (hnext : Stops isBlank next) :
    c.skipBlanks = ⟨c.position + blanks.length, next⟩ := by
  rw [skipBlanks, hrest, hnext.takeWhile_append hblanks]
  exact advance_of_append hrest

/-- One more token in front of those that are found. -/
theorem finds_scanFrom_cons {c after : Cursor} {token : Token} {ts : List Token} {fuel : Nat}
    (htoken : c.skipBlanks.token = .ok (token, after)) (hne : token ≠ .eof)
    (h : (scanFrom fuel after).Finds ts) : (scanFrom (fuel + 1) c).Finds (token :: ts) := by
  obtain ⟨hfailure, htokens⟩ := h
  simp only [scanFrom, htoken, if_neg hne]
  exact ⟨hfailure, congrArg (token :: ·) htokens⟩

theorem finds_scanFrom_of_lexed {cs : List Char} {ts : List Token} (h : Lexed cs ts) (c : Cursor)
    (hrest : c.rest = cs) (fuel : Nat) (hfuel : cs.length < fuel) :
    (scanFrom fuel c).Finds ts := by
  induction h generalizing c fuel with
  | @nil blanks hblanks =>
    obtain ⟨fuel, rfl⟩ : ∃ k, fuel = k + 1 := ⟨fuel - 1, by omega⟩
    have hskip := Cursor.skipBlanks_of_append (c := c) (by rw [hrest, List.append_nil]) hblanks
      (stops_nil _)
    simp only [scanFrom, hskip, Cursor.token, if_pos]
    exact ⟨rfl, rfl⟩
  | @cons blanks w next token ts hblanks hspelled _ ih =>
    obtain ⟨fuel, rfl⟩ : ∃ k, fuel = k + 1 := ⟨fuel - 1, by omega⟩
    have hskip := Cursor.skipBlanks_of_append hrest hblanks (hspelled.solid.stops next)
    have hw : 0 < w.length := List.length_pos_iff.mpr hspelled.solid.ne_nil
    have htoken : c.skipBlanks.token
        = .ok (token, ⟨c.position + blanks.length + w.length, next⟩) := by
      rw [hskip]
      exact Cursor.token_of_spells ⟨w, rfl, rfl, hspelled⟩
    rw [List.length_append, List.length_append] at hfuel
    exact finds_scanFrom_cons htoken hspelled.ne_eof (ih _ rfl fuel (by omega))

theorem exists_lexed_of_scanFrom {fuel : Nat} {c : Cursor} (hfuel : c.rest.length < fuel)
    (h : (scanFrom fuel c).failure = none) : ∃ ts, Lexed c.rest ts := by
  induction fuel generalizing c with
  | zero => exact absurd hfuel (Nat.not_lt_zero _)
  | succ fuel ih =>
    obtain ⟨next, hsplit, hnext, hblanks⟩ := exists_run isBlank c.rest
    have hskip := Cursor.skipBlanks_of_append hsplit hblanks hnext
    rw [scanFrom] at h
    split at h
    · cases h
    · next token after htoken =>
      rcases Cursor.token_eq_ok_iff.mp htoken with ⟨hnil, rfl, rfl⟩ | ⟨w, hw, -, hspelled⟩
      · rw [hskip] at hnil
        rw [hsplit, show next = [] from hnil, List.append_nil]
        exact ⟨[], .nil hblanks⟩
      · rw [hskip] at hw
        have hnext : next = w ++ after.rest := hw
        have hpos : 0 < w.length := List.length_pos_iff.mpr hspelled.solid.ne_nil
        have hlength : after.rest.length < c.rest.length := by
          rw [hsplit, hnext, List.length_append, List.length_append]
          omega
        rw [if_neg hspelled.ne_eof] at h
        obtain ⟨ts, hts⟩ := ih (c := after) (by omega) h
        rw [hsplit, hnext]
        exact ⟨token :: ts, .cons hblanks hspelled hts⟩

/-- A text writes tokens if the lexer gets to its end. -/
theorem exists_lexed_of_failure_eq_none {text : String} (h : (scan text).failure = none) :
    ∃ ts, Lexed text.toList ts :=
  exists_lexed_of_scanFrom (Nat.lt_succ_self _) h

theorem finds_of_lexed {text : String} {ts : List Token} (h : Lexed text.toList ts) :
    (scan text).Finds ts :=
  finds_scanFrom_of_lexed h ⟨0, text.toList⟩ rfl _ (Nat.lt_succ_self _)

/-- **The lexer finds the tokens that a text writes.** -/
theorem scan_finds_iff {text : String} {ts : List Token} :
    (scan text).Finds ts ↔ Lexed text.toList ts := by
  constructor
  · intro h
    obtain ⟨ts', hts'⟩ := exists_lexed_of_failure_eq_none h.failure
    have htokens : ts ++ [.eof] = ts' ++ [Token.eof] :=
      h.tokens.symm.trans (finds_of_lexed hts').tokens
    rwa [List.append_cancel_right htokens]
  · exact finds_of_lexed

/-! ### Blanks around a text -/

theorem head?_append_of_mem {next : List Char} {c : Char} (h : c ∈ next.head?)
    (more : List Char) : c ∈ (next ++ more).head? := by
  cases next with
  | nil => cases h
  | cons d next => exact h

/-- What begins behind a text begins with a character of the text, or with a blank. -/
theorem mem_head?_append_blanks {next blanks : List Char} {c : Char}
    (hblanks : ∀ b ∈ blanks, isBlank b = true) (h : c ∈ (next ++ blanks).head?) :
    c ∈ next.head? ∨ isBlank c = true := by
  cases next with
  | nil => exact .inr (hblanks c (List.mem_of_mem_head? h))
  | cons d next => exact .inl h

theorem Text.Stops.of_append {p : Char → Bool} {next more : List Char} (h : Stops p (next ++ more)) :
    Stops p next :=
  fun c hc => h c (head?_append_of_mem hc more)

theorem Text.Stops.append_blanks {p : Char → Bool} {next blanks : List Char} (h : Stops p next)
    (hblanks : ∀ b ∈ blanks, isBlank b = true) (hp : ∀ b, isBlank b = true → p b = false) :
    Stops p (next ++ blanks) := by
  intro c hc
  rcases mem_head?_append_blanks hblanks hc with hc | hc
  · exact h c hc
  · exact hp c hc

theorem isDigit_of_isBlank {c : Char} (h : isBlank c = true) : c.isDigit = false := by
  by_contra hdigit
  have hpart := isNamePart_of_isDigit (Bool.not_eq_false _ ▸ hdigit)
  rw [isNamePart_of_isBlank h] at hpart
  cases hpart

theorem isNameStart_of_isBlank {c : Char} (h : isBlank c = true) : isNameStart c = false := by
  by_contra hstart
  have hpart := Cursor.isNamePart_of_isNameStart (Bool.not_eq_false _ ▸ hstart)
  rw [isNamePart_of_isBlank h] at hpart
  cases hpart

theorem Cursor.pair?_of_isBlank {a b : Char} (h : isBlank b = true) : Cursor.pair? a b = none := by
  by_contra hne
  obtain ⟨token, hpair⟩ := Option.ne_none_iff_exists'.mp hne
  rw [(Cursor.isBlank_of_pair? hpair).2] at h
  cases h

theorem NoFraction.of_append {next more : List Char} (h : NoFraction (next ++ more)) :
    NoFraction next := by
  rintro d rest rfl
  exact h d (rest ++ more) rfl

theorem NoFraction.append_blanks {next blanks : List Char} (h : NoFraction next)
    (hblanks : ∀ b ∈ blanks, isBlank b = true) : NoFraction (next ++ blanks) := by
  intro d rest heq
  cases next with
  | nil =>
    have hmem : '.' ∈ blanks := by
      rw [show blanks = '.' :: d :: rest from heq]
      exact List.mem_cons_self
    exact absurd (hblanks '.' hmem) (by decide)
  | cons c next =>
    obtain ⟨rfl, htail⟩ := List.cons.inj heq
    have hd : d ∈ (next ++ blanks).head? := by
      rw [show next ++ blanks = d :: rest from htail]
      rfl
    rcases mem_head?_append_blanks hblanks hd with hd | hd
    · obtain ⟨next, rfl⟩ := List.head?_eq_some_iff.mp hd
      exact h d next rfl
    · exact isDigit_of_isBlank hd

/-- Less that follows stops a token no later. -/
theorem Spelled.of_append {token : Token} {w next more : List Char}
    (h : Spelled token w (next ++ more)) : Spelled token w next := by
  cases h with
  | param hname hnext => exact .param hname hnext.of_append
  | dollar hnext => exact .dollar hnext.of_append
  | string hquote content => exact .string hquote content
  | pair hsign => exact .pair hsign
  | single hsign hnext => exact .single hsign fun b hb => hnext b (head?_append_of_mem hb more)
  | word hname hnext => exact .word hname hnext.of_append
  | integer hne hdigits hnext hpoint hvalue =>
    exact .integer hne hdigits hnext.of_append hpoint.of_append hvalue
  | float hne hdigits hfraction hfractionDigits hnext =>
    exact .float hne hdigits hfraction hfractionDigits hnext.of_append

/-- Blanks go on no token. -/
theorem Spelled.append_blanks {token : Token} {w next blanks : List Char}
    (h : Spelled token w next) (hblanks : ∀ b ∈ blanks, isBlank b = true) :
    Spelled token w (next ++ blanks) := by
  cases h with
  | param hname hnext =>
    exact .param hname (hnext.append_blanks hblanks fun _ => isNamePart_of_isBlank)
  | dollar hnext => exact .dollar (hnext.append_blanks hblanks fun _ => isNameStart_of_isBlank)
  | string hquote content => exact .string hquote content
  | pair hsign => exact .pair hsign
  | single hsign hnext =>
    refine .single hsign fun b hb => ?_
    rcases mem_head?_append_blanks hblanks hb with hb | hb
    · exact hnext b hb
    · exact Cursor.pair?_of_isBlank hb
  | word hname hnext =>
    exact .word hname (hnext.append_blanks hblanks fun _ => isNamePart_of_isBlank)
  | integer hne hdigits hnext hpoint hvalue =>
    exact .integer hne hdigits (hnext.append_blanks hblanks fun _ => isDigit_of_isBlank)
      (hpoint.append_blanks hblanks) hvalue
  | float hne hdigits hfraction hfractionDigits hnext =>
    exact .float hne hdigits hfraction hfractionDigits
      (hnext.append_blanks hblanks fun _ => isDigit_of_isBlank)

/-- A text that ends with blanks can be cut behind any of its tokens. -/
theorem Solid.exists_cut {blanks w next cs behind : List Char} (hw : Solid w)
    (hbehind : ∀ b ∈ behind, isBlank b = true) (h : cs ++ behind = blanks ++ (w ++ next)) :
    ∃ rest, cs = blanks ++ (w ++ rest) ∧ next = rest ++ behind := by
  rw [← List.append_assoc] at h
  rcases List.append_eq_append_iff.mp h with ⟨rest, hsplit, hrest⟩ | ⟨rest, hsplit, hnext⟩
  · rcases List.eq_nil_or_concat' rest with rfl | ⟨rest, c, rfl⟩
    · refine ⟨[], ?_, hrest.symm⟩
      rw [← List.append_assoc, List.append_nil, hsplit, List.append_nil]
    · -- the token would reach into the blanks
      exfalso
      have hlast : c ∈ w.getLast? := by
        rw [← List.getLast?_append_of_ne_nil blanks hw.ne_nil, hsplit, ← List.append_assoc,
          List.getLast?_concat]
        rfl
      have hblank : isBlank c = true := hbehind c (by rw [hrest]; simp)
      rw [hw.last c hlast] at hblank
      cases hblank
  · exact ⟨rest, by rw [hsplit, List.append_assoc], hnext⟩

theorem lexed_append_iff {cs behind : List Char} {ts : List Token}
    (hbehind : ∀ b ∈ behind, isBlank b = true) : Lexed (cs ++ behind) ts ↔ Lexed cs ts := by
  constructor
  · intro h
    generalize hall : cs ++ behind = all at h
    induction h generalizing cs with
    | nil hblanks =>
      subst hall
      exact .nil fun b hb => hblanks b (List.mem_append_left behind hb)
    | cons hblanks hspelled _ ih =>
      obtain ⟨rest, rfl, rfl⟩ := hspelled.solid.exists_cut hbehind hall
      exact .cons hblanks hspelled.of_append (ih rfl)
  · intro h
    induction h with
    | nil hblanks => exact .nil fun b hb => (List.mem_append.mp hb).elim (hblanks b) (hbehind b)
    | @cons blanks w next token ts hblanks hspelled _ ih =>
      rw [List.append_assoc, List.append_assoc]
      exact .cons hblanks (hspelled.append_blanks hbehind) ih

theorem lexed_blanks_append_iff {cs before : List Char} {ts : List Token}
    (hbefore : ∀ b ∈ before, isBlank b = true) : Lexed (before ++ cs) ts ↔ Lexed cs ts := by
  constructor
  · intro h
    generalize hall : before ++ cs = all at h
    cases h with
    | nil hblanks =>
      subst hall
      exact .nil fun b hb => hblanks b (List.mem_append_right before hb)
    | @cons blanks w next token ts hblanks hspelled hrest =>
      rcases List.append_eq_append_iff.mp hall with ⟨more, rfl, rfl⟩ | ⟨more, rfl, hw⟩
      · exact .cons (fun b hb => hblanks b (List.mem_append_right before hb)) hspelled hrest
      · cases more with
        | nil =>
          rw [show cs = w ++ next from hw.symm]
          exact @Lexed.cons [] w next token ts (List.forall_mem_nil _) hspelled hrest
        | cons c more =>
          -- the blanks would reach into the token
          exfalso
          have hblank : isBlank c = true := hbefore c (by simp)
          have hstops := hspelled.solid.stops next
          rw [hw, List.cons_append, stops_cons, hblank] at hstops
          cases hstops
  · intro h
    cases h with
    | nil hblanks => exact .nil fun b hb => (List.mem_append.mp hb).elim (hbefore b) (hblanks b)
    | cons hblanks hspelled hrest =>
      rw [← List.append_assoc]
      exact .cons (fun b hb => (List.mem_append.mp hb).elim (hbefore b) (hblanks b)) hspelled hrest

theorem exists_trimEnd (cs : List Char) :
    ∃ behind, cs = trimEnd cs ++ behind ∧ ∀ b ∈ behind, isBlank b = true := by
  refine ⟨(cs.reverse.takeWhile isBlank).reverse, ?_, fun b hb => ?_⟩
  · rw [trimEnd, ← List.reverse_append, List.takeWhile_append_dropWhile, List.reverse_reverse]
  · exact List.mem_takeWhile_imp (List.mem_reverse.mp hb)

theorem exists_trimStart (cs : List Char) :
    ∃ before, cs = before ++ trimStart cs ∧ ∀ b ∈ before, isBlank b = true :=
  ⟨cs.takeWhile isBlank, List.takeWhile_append_dropWhile.symm,
    fun _ hb => List.mem_takeWhile_imp hb⟩

/-- A text without the blanks around it writes the same tokens. -/
theorem lexed_trim_iff {text : String} {ts : List Token} :
    Lexed (trim text).toList ts ↔ Lexed text.toList ts := by
  obtain ⟨before, hbefore, hblanks⟩ := exists_trimStart text.toList
  obtain ⟨behind, hbehind, hblanks'⟩ := exists_trimEnd (trimStart text.toList)
  rw [trim, String.toList_ofList]
  calc Lexed (trimEnd (trimStart text.toList)) ts
      ↔ Lexed (trimEnd (trimStart text.toList) ++ behind) ts := (lexed_append_iff hblanks').symm
    _ ↔ Lexed (trimStart text.toList) ts := by rw [← hbehind]
    _ ↔ Lexed (before ++ trimStart text.toList) ts := (lexed_blanks_append_iff hblanks).symm
    _ ↔ Lexed text.toList ts := by rw [← hbefore]

end DocQuery
