import DocQuery.Proofs.Query.Literals

/-!
# What printed texts show

The text in which a message quotes an expression is no text of the language: numbers have powers of
ten or are infinite, strings have code points for what cannot be seen, and a key is written like a
name even if it is a keyword.  It still shows its tokens in one way.  The first character of each
part tells what the part is, and each part is told from what follows it.

## Main definitions

* `Token.numeral?` — the characters of a number without a sign.
* `Opening`, `opening` — what the first character tells of a part.
* `Shown`, `Shows` — a part of a printed text, and a whole one, shows tokens.

## Main results

* `Shown.append_inj` — a part is told from what follows it.
* `Shows.unique` — **a printed text shows one list of tokens.**
-/

namespace DocQuery

open Text

/-! ### Numbers without a sign -/

namespace Token

/-- The characters of a number without a sign, apart from infinity. -/
def numeral? : Token → Option (List Char)
  | .integer n => if n.toInt < 0 then none else some (Nat.toDigits 10 n.toInt.natAbs)
  | .float (.finite x) => if x.negative then none else some (x.unsignedPrint messageLayout)
  | _ => none

variable {token token' : Token} {w : List Char}

theorem numeral?_cases (h : token.numeral? = some w) :
    (∃ n : Int64, token = .integer n ∧ 0 ≤ n.toInt ∧ w = Nat.toDigits 10 n.toInt.natAbs) ∨
      ∃ x : Binary64, token = .float (.finite x) ∧ x.negative = false ∧
        w = x.unsignedPrint messageLayout := by
  unfold numeral? at h
  split at h
  · next n =>
    obtain ⟨hn, hw⟩ := Option.ite_none_left_eq_some.mp h
    exact .inl ⟨n, rfl, Int.not_lt.mp hn, (Option.some.inj hw).symm⟩
  · next x =>
    obtain ⟨hx, hw⟩ := Option.ite_none_left_eq_some.mp h
    exact .inr ⟨x, rfl, Bool.eq_false_iff.mpr hx, (Option.some.inj hw).symm⟩
  · cases h

theorem isNumeral_of_numeral? (h : token.numeral? = some w) : IsNumeral w := by
  obtain ⟨n, -, -, rfl⟩ | ⟨x, -, -, rfl⟩ := numeral?_cases h
  · exact (isDigits_toDigits _).isNumeral
  · exact x.isNumeral_unsignedPrint

/-- Different numbers are written differently. -/
theorem numeral?_inj (h : token.numeral? = some w) (h' : token'.numeral? = some w) :
    token = token' := by
  -- an integer has digits only
  have hne {n : Nat} {x : Binary64} : Nat.toDigits 10 n ≠ x.unsignedPrint messageLayout := by
    intro heq
    have hmark := x.mem_unsignedPrint messageLayout
    rw [← heq] at hmark
    rcases hmark with hmark | hmark
    · exact notMem_of_forall_isDigit (isDigit_toDigits n) rfl hmark
    · exact notMem_of_forall_isDigit (isDigit_toDigits n) rfl hmark
  obtain ⟨m, rfl, hm, rfl⟩ | ⟨x, rfl, hx, rfl⟩ := numeral?_cases h <;>
    obtain ⟨n, rfl, hn, hw⟩ | ⟨y, rfl, hy, hw⟩ := numeral?_cases h'
  · have habs : m.toInt.natAbs = n.toInt.natAbs := by
      rw [← appendDigits_toDigits m.toInt.natAbs, hw, appendDigits_toDigits]
    rw [Int64.toInt_inj.mp (by omega : m.toInt = n.toInt)]
  · exact absurd hw hne
  · exact absurd hw.symm hne
  · have hvalue : x.printedValue messageLayout = y.printedValue messageLayout := by
      rw [← Binary64.numeralValue_unsignedPrint, hw, Binary64.numeralValue_unsignedPrint]
    rw [Binary64.eq_of_printedValue_eq hvalue (hx.trans hy.symm)]

end Token

/-! ### What a printed text shows -/

/-- What the first character tells of a part of a printed text. -/
inductive Opening where
  | blank
  | digit
  | name
  | quote
  | point
  | sign

/-- What a part of a printed text is that begins with the character. -/
def opening (c : Char) : Opening :=
  if c.isDigit then .digit
  else if isNameStart c then .name
  else match c with
    | ' ' => .blank
    | '"' => .quote
    | '.' => .point
    | _ => .sign

theorem opening_of_isDigit {c : Char} (h : c.isDigit = true) : opening c = .digit :=
  if_pos h

theorem opening_of_isNameStart {c : Char} (h : isNameStart c = true) : opening c = .name := by
  have hdigit : c.isDigit = false := by
    by_contra hdigit
    rw [isNameStart_of_isDigit (Bool.not_eq_false _ ▸ hdigit)] at h
    cases h
  unfold opening
  rw [if_neg (Bool.eq_false_iff.mp hdigit), if_pos h]

/-- The token that a name shows: infinity, unless a member of a type of this name follows. -/
def shownWord (name : String) (next : List Char) : Token :=
  if name = "inf" ∧ next.head? ≠ some '.' then .float (.infinite false) else Cursor.word name

/-- A part of a printed text shows the tokens, if the last characters follow. -/
inductive Shown : Opening → List Token → List Char → List Char → Prop
  | blank {next : List Char} : Shown .blank [] [' '] next
  | number {token : Token} {w next : List Char} (numeral : token.numeral? = some w)
      (hnext : Ends next) : Shown .digit [token] w next
  | word {name : String} {next : List Char} (hname : isName name = true)
      (hnext : Stops isNamePart next) : Shown .name [shownWord name next] name.toList next
  | string (s : String) {next : List Char} : Shown .quote [.string s] (quoted s).toList next
  | member {name : String} {next : List Char} (hname : isName name = true)
      (hnext : Stops isNamePart next) :
      Shown .point [.dot, .identifier name] ('.' :: name.toList) next
  | sign {token : Token} {w next : List Char} (spelled : Spelled token w next) :
      Shown .sign [token] w next

/-- A printed text shows the tokens. -/
inductive Shows : List Char → List Token → Prop
  | nil : Shows [] []
  | cons {c : Char} {w next : List Char} {ts more : List Token}
      (first : Shown (opening c) ts (c :: w) next) (rest : Shows next more) :
      Shows (c :: (w ++ next)) (ts ++ more)

/-- What is spelled is told from what follows it. -/
theorem Spelled.append_inj {token token' : Token} {w w' next next' : List Char}
    (h : Spelled token w next) (h' : Spelled token' w' next') (heq : w ++ next = w' ++ next') :
    token = token' ∧ next = next' := by
  have hread : Cursor.token ⟨0, w ++ next⟩ = .ok (token, ⟨0 + w.length, next⟩) :=
    Cursor.token_of_spells ⟨w, rfl, rfl, h⟩
  have hread' : Cursor.token ⟨0, w ++ next⟩ = .ok (token', ⟨0 + w'.length, next'⟩) :=
    Cursor.token_of_spells ⟨w', heq, rfl, h'⟩
  obtain ⟨rfl, hafter⟩ := Prod.mk.inj (Except.ok.inj (hread.symm.trans hread'))
  exact ⟨rfl, congrArg Cursor.rest hafter⟩

/-- Names are told from what follows them. -/
theorem name_append_inj {name name' : String} {next next' : List Char} (h : isName name = true)
    (h' : isName name' = true) (hnext : Stops isNamePart next) (hnext' : Stops isNamePart next')
    (heq : name.toList ++ next = name'.toList ++ next') : name = name' ∧ next = next' := by
  obtain ⟨hname, hrest⟩ := hnext.append_inj hnext' (Cursor.forall_mem_of_isNameChars h)
    (Cursor.forall_mem_of_isNameChars h') heq
  exact ⟨String.toList_inj.mp hname, hrest⟩

/-- A part of a printed text is told from what follows it. -/
theorem Shown.append_inj {k : Opening} {ts ts' : List Token} {w w' next next' : List Char}
    (h : Shown k ts w next) (h' : Shown k ts' w' next') (heq : w ++ next = w' ++ next') :
    ts = ts' ∧ next = next' := by
  -- the openings are the same, so both parts are shown by the same rule
  cases h with
  | blank =>
    cases h' with
    | blank => exact ⟨rfl, (List.cons.inj heq).2⟩
  | number hnumeral hnext =>
    cases h' with
    | number hnumeral' hnext' =>
      obtain ⟨rfl, rfl⟩ := (Token.isNumeral_of_numeral? hnumeral).append_inj
        (Token.isNumeral_of_numeral? hnumeral') hnext hnext' heq
      rw [Token.numeral?_inj hnumeral hnumeral']
      exact ⟨rfl, rfl⟩
  | word hname hnext =>
    cases h' with
    | word hname' hnext' =>
      obtain ⟨rfl, rfl⟩ := name_append_inj hname hname' hnext hnext' heq
      exact ⟨rfl, rfl⟩
  | string s =>
    cases h' with
    | string s' =>
      obtain ⟨rfl, rfl⟩ := quoted_append_inj heq
      exact ⟨rfl, rfl⟩
  | member hname hnext =>
    cases h' with
    | member hname' hnext' =>
      obtain ⟨rfl, rfl⟩ := name_append_inj hname hname' hnext hnext' (List.cons.inj heq).2
      exact ⟨rfl, rfl⟩
  | sign hspelled =>
    cases h' with
    | sign hspelled' =>
      obtain ⟨rfl, rfl⟩ := hspelled.append_inj hspelled' heq
      exact ⟨rfl, rfl⟩

theorem Shown.notMem {k : Opening} {ts : List Token} {w next : List Char}
    (h : Shown k ts w next) : Token.eof ∉ ts := by
  cases h with
  | blank => exact List.not_mem_nil
  | number hnumeral =>
    obtain ⟨n, rfl, -⟩ | ⟨x, rfl, -⟩ := Token.numeral?_cases hnumeral <;> simp
  | @word name _ hname hnext =>
    have hspelled : Spelled (Cursor.word (String.ofList name.toList)) name.toList next :=
      .word hname hnext
    rw [String.ofList_toList] at hspelled
    rw [List.mem_singleton, shownWord]
    split
    · exact nofun
    · exact hspelled.ne_eof.symm
  | string | member => simp
  | sign hspelled => exact List.mem_singleton.not.mpr hspelled.ne_eof.symm

namespace Shows

variable {cs next : List Char} {ts ts' more : List Token} {token : Token}

theorem notMem (h : Shows cs ts) : Token.eof ∉ ts := by
  induction h with
  | nil => exact List.not_mem_nil
  | cons hfirst _ ih =>
    rw [List.mem_append, not_or]
    exact ⟨hfirst.notMem, ih⟩

/-- **A printed text shows one list of tokens.** -/
theorem unique (h : Shows cs ts) (h' : Shows cs ts') : ts = ts' := by
  induction h generalizing ts' with
  | nil =>
    cases h'
    rfl
  | @cons c w next ts more hfirst _ ih =>
    generalize hcs : c :: (w ++ next) = cs at h'
    cases h' with
    | nil => cases hcs
    | cons hfirst' hrest' =>
      obtain ⟨rfl, heq⟩ := List.cons.inj hcs
      -- one first character, so one opening for both first parts
      obtain ⟨rfl, rfl⟩ := hfirst.append_inj hfirst' (congrArg (c :: ·) heq)
      rw [ih hrest']

/-! ### Texts in front of texts -/

theorem blank (hnext : Shows next ts) : Shows (' ' :: next) ts :=
  .cons (c := ' ') (w := []) .blank hnext

theorem number {w : List Char} (h : token.numeral? = some w) (hends : Ends next)
    (hnext : Shows next ts) : Shows (w ++ next) (token :: ts) := by
  obtain ⟨c, rest, rfl, hc⟩ := (Token.isNumeral_of_numeral? h).exists_cons
  have hfirst : Shown (opening c) [token] (c :: rest) next := by
    rw [opening_of_isDigit hc]
    exact .number h hends
  exact .cons hfirst hnext

theorem word (name : String) (hname : isName name = true) (hstops : Stops isNamePart next)
    (hnext : Shows next ts) : Shows (name.toList ++ next) (shownWord name next :: ts) := by
  obtain ⟨c, rest, hcons, hc⟩ := Cursor.exists_cons_of_isNameChars hname
  have hfirst : Shown (opening c) [shownWord name next] (c :: rest) next := by
    rw [opening_of_isNameStart hc, ← hcons]
    exact .word hname hstops
  rw [hcons]
  exact .cons hfirst hnext

/-- A name other than that of infinity. -/
theorem keyword (name : String) (hname : isName name = true) (hne : name ≠ "inf")
    (htoken : Cursor.word name = token) (hstops : Stops isNamePart next) (hnext : Shows next ts) :
    Shows (name.toList ++ next) (token :: ts) := by
  have hshown : shownWord name next = token := by
    rw [shownWord, if_neg fun h => hne h.1, htoken]
  exact hshown ▸ word name hname hstops hnext

theorem string (s : String) (hnext : Shows next ts) :
    Shows ((quoted s).toList ++ next) (.string s :: ts) := by
  have hcons : (quoted s).toList = '"' :: (s.toList.flatMap escaped ++ ['"']) := by
    rw [quoted, String.toList_ofList, List.cons_append]
  have hfirst : Shown .quote [.string s] (quoted s).toList next := .string s
  rw [hcons] at hfirst ⊢
  exact .cons (c := '"') hfirst hnext

theorem member {name : String} (hname : isName name = true) (hstops : Stops isNamePart next)
    (hnext : Shows next ts) : Shows ('.' :: (name.toList ++ next)) (.dot :: .identifier name :: ts) :=
  .cons (c := '.') (.member hname hstops) hnext

theorem spelled {a : Char} {w : List Char} (hsign : opening a = .sign)
    (h : Spelled token (a :: w) next) (hnext : Shows next ts) :
    Shows (a :: (w ++ next)) (token :: ts) := by
  have hfirst : Shown (opening a) [token] (a :: w) next := by
    rw [hsign]
    exact .sign h
  exact .cons hfirst hnext

/-- A sign that no other can follow to make a longer one. -/
theorem sign {a : Char} (hsign : opening a = .sign) (h : Cursor.single? a = some token)
    (halone : ∀ b, Cursor.pair? a b = none) (hnext : Shows next ts) :
    Shows (a :: next) (token :: ts) :=
  spelled (w := []) hsign (.single h fun b _ => halone b) hnext

/-- An operator with a blank behind it. -/
theorem operator (op : BinaryOperator) (hnext : Shows next ts) :
    Shows (op.symbol.toList ++ ' ' :: next) (op.token :: ts) := by
  have hspelled := spelled_operator op next
  have hstops : Stops isNamePart (' ' :: next) := stops_cons.mpr (by decide)
  cases op with
  | and | or => exact keyword _ (by decide) (by decide) rfl hstops hnext.blank
  | _ => exact spelled rfl hspelled hnext.blank

end Shows

end DocQuery
