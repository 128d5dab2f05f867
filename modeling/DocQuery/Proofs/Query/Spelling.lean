import DocQuery.Proofs.Outcome
import DocQuery.Query.Lexer
import Mathlib

/-!
# How tokens are spelled

Which characters spell which token, stated by rules and without an algorithm.  A token goes on as
long as it can: each rule says what must not follow.  The lexer reads a token off a place exactly if
the characters ahead begin with a spelling of it.

## Main definitions

* `Text.Stops` — the characters do not begin with one of a kind.
* `Content` — what stands between the quotes of a string.
* `Spelled` — the characters spell the token, if these others follow.

## Main results

* `Cursor.stringBody_eq_ok_iff` — strings are read up to the quote that closes them.
* `Cursor.token_eq_ok_iff` — **the lexer reads a token off a place exactly if it is spelled there.**
-/

namespace DocQuery

/-! ### Runs of characters -/

namespace Text

variable {p : Char → Bool} {w next : List Char}

/-- The characters do not begin with one that has the property. -/
def Stops (p : Char → Bool) (next : List Char) : Prop :=
  ∀ c ∈ next.head?, p c = false

theorem stops_nil (p : Char → Bool) : Stops p [] :=
  fun _ h => nomatch h

theorem stops_cons {c : Char} : Stops p (c :: next) ↔ p c = false :=
  ⟨fun h => h c rfl, fun h _ hd => Option.some.inj hd ▸ h⟩

theorem Stops.takeWhile_eq_nil (h : Stops p next) : next.takeWhile p = [] := by
  cases next with
  | nil => rfl
  | cons c next => rw [List.takeWhile_cons, h c rfl, if_neg Bool.false_ne_true]

theorem Stops.takeWhile_append (h : Stops p next) (hw : ∀ c ∈ w, p c = true) :
    (w ++ next).takeWhile p = w := by
  rw [List.takeWhile_append_of_pos hw, h.takeWhile_eq_nil, List.append_nil]

theorem stops_dropWhile (p : Char → Bool) (cs : List Char) : Stops p (cs.dropWhile p) := by
  intro c hc
  have h := List.head?_dropWhile_not p cs
  rw [Option.mem_def.mp hc] at h
  exact h

/-- The longest run of characters with a property and what stops it. -/
theorem exists_run (p : Char → Bool) (cs : List Char) :
    ∃ next, cs = cs.takeWhile p ++ next ∧ Stops p next ∧ ∀ c ∈ cs.takeWhile p, p c = true :=
  ⟨cs.dropWhile p, List.takeWhile_append_dropWhile.symm, stops_dropWhile p cs,
    fun _ hc => List.mem_takeWhile_imp hc⟩

/-! ### Digits -/

theorem toNat_of_isDigit {c : Char} (h : c.isDigit = true) : 48 ≤ c.toNat ∧ c.toNat ≤ 57 := by
  simp only [Char.isDigit, Bool.and_eq_true, decide_eq_true_eq, ge_iff_le,
    UInt32.le_iff_toNat_le] at h
  exact h

theorem isAlpha_of_isDigit {c : Char} (h : c.isDigit = true) : c.isAlpha = false := by
  have hdigit := toNat_of_isDigit h
  have hval : c.val.toNat = c.toNat := rfl
  simp only [Char.isAlpha, Char.isUpper, Char.isLower, Bool.or_eq_false_iff, Bool.and_eq_false_iff,
    decide_eq_false_iff_not, ge_iff_le, UInt32.le_iff_toNat_le, hval]
  have hupper : 57 < 'A'.val.toNat := by decide
  have hlower : 57 < 'a'.val.toNat := by decide
  omega

/-- No name begins with a digit. -/
theorem isNameStart_of_isDigit {c : Char} (h : c.isDigit = true) : isNameStart c = false := by
  have hdigit := toNat_of_isDigit h
  rw [isNameStart, isAlphabetic, if_pos (by omega), isAlpha_of_isDigit h, Bool.false_or,
    beq_eq_false_iff_ne]
  rintro rfl
  cases h

end Text

open Text

/-! ### Spellings -/

/-- The characters do not begin with the fraction of a number. -/
def NoFraction (next : List Char) : Prop :=
  ∀ d more, next = '.' :: d :: more → d.isDigit = false

/-- The characters stand between two of these quotes for the content of a string. -/
inductive Content (quote : Char) : List Char → List Char → Prop
  | nil : Content quote [] []
  | plain {c : Char} {body chars : List Char} (hquote : c ≠ quote) (hbackslash : c ≠ '\\')
      (rest : Content quote body chars) : Content quote (c :: body) (c :: chars)
  | escaped {e c : Char} {body chars : List Char} (escape : Cursor.unescape? e = some c)
      (rest : Content quote body chars) : Content quote ('\\' :: e :: body) (c :: chars)

/-- The characters spell the token, if the last ones follow. -/
inductive Spelled : Token → List Char → List Char → Prop
  | param {name next : List Char} (hname : isNameChars name = true)
      (hnext : Stops isNamePart next) : Spelled (.param (String.ofList name)) ('$' :: name) next
  | dollar {next : List Char} (hnext : Stops isNameStart next) : Spelled .dollar ['$'] next
  | string {quote : Char} {body chars next : List Char} (hquote : quote = '"' ∨ quote = '\'')
      (content : Content quote body chars) :
      Spelled (.string (String.ofList chars)) (quote :: (body ++ [quote])) next
  | pair {token : Token} {a b : Char} {next : List Char}
      (sign : Cursor.pair? a b = some token) : Spelled token [a, b] next
  | single {token : Token} {a : Char} {next : List Char} (sign : Cursor.single? a = some token)
      (hnext : ∀ b ∈ next.head?, Cursor.pair? a b = none) : Spelled token [a] next
  | word {name next : List Char} (hname : isNameChars name = true)
      (hnext : Stops isNamePart next) : Spelled (Cursor.word (String.ofList name)) name next
  | integer {digits next : List Char} {n : Int64} (hne : digits ≠ [])
      (hdigits : ∀ d ∈ digits, d.isDigit = true) (hnext : Stops Char.isDigit next)
      (hpoint : NoFraction next)
      (value : signed64? (appendDigits 0 digits) = some n) : Spelled (.integer n) digits next
  | float {whole fraction next : List Char} (hwhole : whole ≠ [])
      (hdigits : ∀ d ∈ whole, d.isDigit = true) (hfraction : fraction ≠ [])
      (hfractionDigits : ∀ d ∈ fraction, d.isDigit = true) (hnext : Stops Char.isDigit next) :
      Spelled (.float (Cursor.floatLiteral whole fraction)) (whole ++ '.' :: fraction) next

namespace Cursor

/-! ### Strings -/

theorem stringBody_of_content {quote : Char} (hquote : quote ≠ '\\') {body chars : List Char}
    (h : Content quote body chars) (start position : Nat) (next : List Char) :
    stringBody quote start position (body ++ quote :: next)
      = .ok (chars, ⟨position + body.length + 1, next⟩) := by
  induction h generalizing position with
  | nil =>
    rw [List.nil_append, stringBody.eq_def]
    simp only [if_pos, List.length_nil, Nat.add_zero]
  | @plain c body chars hc hbackslash _ ih =>
    rw [List.cons_append, stringBody.eq_def]
    simp only [if_neg hc, if_neg hbackslash, ih, ok_bind, List.length_cons]
    rw [Nat.add_right_comm position 1, Nat.add_assoc position]
  | @escaped e c body chars hescape _ ih =>
    rw [List.cons_append, List.cons_append, stringBody.eq_def]
    simp only [if_neg hquote.symm, if_pos, hescape, ih, ok_bind, List.length_cons]
    rw [Nat.add_right_comm position 2, Nat.add_assoc position]

theorem exists_content_of_stringBody {quote : Char} {start position : Nat} {cs chars : List Char}
    {after : Cursor} (h : stringBody quote start position cs = .ok (chars, after)) :
    ∃ body, cs = body ++ quote :: after.rest ∧ after.position = position + body.length + 1 ∧
      Content quote body chars := by
  fun_induction stringBody quote start position cs generalizing chars after with
  | case1 | case3 | case4 => cases h
  | case2 position rest =>
    cases h
    exact ⟨[], rfl, rfl, .nil⟩
  | case5 position e rest c hescape hquote ih =>
    obtain ⟨⟨chars, last⟩, hrest, hchars⟩ := bind_eq_ok_iff.mp h
    cases hchars
    obtain ⟨body, rfl, hposition, hcontent⟩ := ih hrest
    refine ⟨'\\' :: e :: body, rfl, ?_, .escaped hescape hcontent⟩
    rw [hposition, List.length_cons, List.length_cons]
    omega
  | case6 position c rest hquote hbackslash ih =>
    obtain ⟨⟨chars, last⟩, hrest, hchars⟩ := bind_eq_ok_iff.mp h
    cases hchars
    obtain ⟨body, rfl, hposition, hcontent⟩ := ih hrest
    refine ⟨c :: body, rfl, ?_, .plain hquote hbackslash hcontent⟩
    rw [hposition, List.length_cons]
    omega

/-! ### Places in a text -/

/-- The token is spelled at the first place, and the second place is behind it. -/
def Spells (c : Cursor) (token : Token) (after : Cursor) : Prop :=
  ∃ w, c.rest = w ++ after.rest ∧ after.position = c.position + w.length ∧
    Spelled token w after.rest

theorem advance_of_append {c : Cursor} {w next : List Char} (h : c.rest = w ++ next) :
    c.advance w.length = ⟨c.position + w.length, next⟩ := by
  rw [advance, h, List.drop_left]

theorem advance_advance (c : Cursor) (m n : Nat) :
    (c.advance m).advance n = c.advance (n + m) := by
  rw [advance, advance, advance, List.drop_drop, Nat.add_assoc, Nat.add_comm n]

/-- A token behind which the lexer goes by the length of its spelling. -/
theorem spells_advance {c : Cursor} {token : Token} {w next : List Char}
    (hrest : c.rest = w ++ next) (h : Spelled token w next) :
    c.Spells token (c.advance w.length) := by
  rw [advance_of_append hrest]
  exact ⟨w, hrest, rfl, h⟩

theorem Spells.eq_advance {c after : Cursor} {w : List Char} (hrest : c.rest = w ++ after.rest)
    (hposition : after.position = c.position + w.length) : after = c.advance w.length := by
  rw [advance_of_append hrest, ← hposition]

/-! ### Strings, names and numbers -/

theorem string_eq_ok_iff {c after : Cursor} {token : Token} {quote : Char}
    (hquote : quote = '"' ∨ quote = '\'') {rest : List Char} (hrest : c.rest = quote :: rest) :
    c.string quote = .ok (token, after) ↔
      ∃ body chars, rest = body ++ quote :: after.rest ∧
        after.position = c.position + body.length + 2 ∧ Content quote body chars ∧
        token = .string (String.ofList chars) := by
  rw [string, hrest, List.drop_one, List.tail_cons, bind_eq_ok_iff]
  constructor
  · rintro ⟨⟨chars, last⟩, hbody, heq⟩
    cases heq
    obtain ⟨body, hsplit, hposition, hcontent⟩ := exists_content_of_stringBody hbody
    exact ⟨body, chars, hsplit, by omega, hcontent, rfl⟩
  · rintro ⟨body, chars, rfl, hposition, hcontent, rfl⟩
    have hne : quote ≠ '\\' := by rcases hquote with rfl | rfl <;> decide
    refine ⟨(chars, after), ?_, rfl⟩
    rw [stringBody_of_content hne hcontent]
    have hafter : c.position + 1 + body.length + 1 = after.position := by omega
    rw [hafter]

theorem isNamePart_of_isNameStart {c : Char} (h : isNameStart c = true) : isNamePart c = true := by
  rw [isNameStart, Bool.or_eq_true] at h
  rw [isNamePart, isAlphanumeric, Bool.or_eq_true, Bool.or_eq_true]
  rcases h with h | h
  · exact .inl (.inl h)
  · exact .inr h

theorem isNameChars_cons {c : Char} {name : List Char} :
    isNameChars (c :: name) = true ↔ isNameStart c = true ∧ ∀ d ∈ name, isNamePart d = true := by
  rw [isNameChars, Bool.and_eq_true, List.all_eq_true]

theorem forall_mem_of_isNameChars {name : List Char} (h : isNameChars name = true) :
    ∀ c ∈ name, isNamePart c = true := by
  cases name with
  | nil => exact List.forall_mem_nil _
  | cons c name =>
    obtain ⟨hc, hname⟩ := isNameChars_cons.mp h
    exact List.forall_mem_cons.mpr ⟨isNamePart_of_isNameStart hc, hname⟩

/-- A name at a place goes on to the first character that cannot belong to it. -/
theorem name_of_append {c : Cursor} {name next : List Char} (hrest : c.rest = name ++ next)
    (hname : isNameChars name = true) (hnext : Stops isNamePart next) :
    c.name = (String.ofList name, c.advance name.length) := by
  simp only [Cursor.name, hrest, hnext.takeWhile_append (forall_mem_of_isNameChars hname)]

/-- The name of a parameter, behind the sign of the document. -/
theorem name_of_dollar {c : Cursor} {name next : List Char} (hrest : c.rest = '$' :: (name ++ next))
    (hname : isNameChars name = true) (hnext : Stops isNamePart next) :
    (c.advance 1).name = (String.ofList name, c.advance (name.length + 1)) := by
  have hrest' : (c.advance 1).rest = name ++ next := by
    rw [advance, hrest]
    rfl
  rw [name_of_append hrest' hname hnext, advance_advance]

/-- What begins like a name begins with a name. -/
theorem exists_name {rest : List Char} (h : startsWithName rest = true) :
    ∃ name next, rest = name ++ next ∧ isNameChars name = true ∧ Stops isNamePart next := by
  cases rest with
  | nil => cases h
  | cons c rest =>
    obtain ⟨next, hsplit, hnext, hname⟩ := exists_run isNamePart rest
    exact ⟨c :: rest.takeWhile isNamePart, next, congrArg (c :: ·) hsplit,
      isNameChars_cons.mpr ⟨h, hname⟩, hnext⟩

theorem exists_cons_of_isNameChars {name : List Char} (h : isNameChars name = true) :
    ∃ c rest, name = c :: rest ∧ isNameStart c = true := by
  cases name with
  | nil => cases h
  | cons c name => exact ⟨c, name, rfl, (isNameChars_cons.mp h).1⟩

theorem startsWithName_append {name : List Char} (h : isNameChars name = true)
    (next : List Char) : startsWithName (name ++ next) = true := by
  obtain ⟨c, rest, rfl, hc⟩ := exists_cons_of_isNameChars h
  exact hc

theorem startsWithName_eq_false_iff {rest : List Char} :
    startsWithName rest = false ↔ Stops isNameStart rest := by
  cases rest with
  | nil => exact iff_of_true rfl (stops_nil _)
  | cons c rest => exact ⟨fun h d hd => Option.some.inj hd ▸ h, fun h => h c rfl⟩

theorem integer_eq_ok_iff {c after : Cursor} {digits : List Char} {token : Token} :
    c.integer digits = .ok (token, after) ↔
      ∃ n, signed64? (appendDigits 0 digits) = some n ∧ token = .integer n ∧
        after = c.advance digits.length := by
  rw [integer]
  cases signed64? (appendDigits 0 digits) with
  | none => exact iff_of_false nofun nofun
  | some n =>
    constructor
    · intro h
      cases h
      exact ⟨n, rfl, rfl, rfl⟩
    · rintro ⟨_, ⟨⟩, rfl, rfl⟩
      rfl

section Number

variable {c : Cursor} {whole next : List Char} (hrest : c.rest = whole ++ next)
  (hwhole : ∀ d ∈ whole, d.isDigit = true) (hnext : Stops Char.isDigit next)

include hrest hwhole hnext

theorem number_of_noFraction (h : NoFraction next) : c.number = c.integer whole := by
  rw [number, hrest, hnext.takeWhile_append hwhole, List.drop_left]
  split
  · next d more => rw [if_neg (by simp [h d more rfl])]
  · rfl

theorem number_of_fraction {d : Char} {more : List Char} (h : next = '.' :: d :: more)
    (hd : d.isDigit = true) :
    c.number = .ok (.float (floatLiteral whole ((d :: more).takeWhile Char.isDigit)),
      c.advance (whole.length + 1 + ((d :: more).takeWhile Char.isDigit).length)) := by
  rw [number, hrest, hnext.takeWhile_append hwhole, List.drop_left]
  subst h
  exact if_pos hd

end Number

theorem spells_of_number {c after : Cursor} {token : Token} {d : Char} {rest : List Char}
    (hrest : c.rest = d :: rest) (hd : d.isDigit = true) (h : c.number = .ok (token, after)) :
    c.Spells token after := by
  obtain ⟨next, hsplit, hnext, hwhole⟩ := exists_run Char.isDigit c.rest
  have hne : c.rest.takeWhile Char.isDigit ≠ [] := by
    rw [hrest, List.takeWhile_cons_of_pos hd]
    exact List.cons_ne_nil _ _
  by_cases hfraction : NoFraction next
  · rw [number_of_noFraction hsplit hwhole hnext hfraction] at h
    obtain ⟨n, hn, rfl, rfl⟩ := integer_eq_ok_iff.mp h
    exact spells_advance hsplit (.integer hne hwhole hnext hfraction hn)
  · simp only [NoFraction, not_forall, Bool.not_eq_false] at hfraction
    obtain ⟨e, more, hpoint, he⟩ := hfraction
    rw [number_of_fraction hsplit hwhole hnext hpoint he] at h
    cases h
    obtain ⟨last, hmore, hlast, hfraction⟩ := exists_run Char.isDigit (e :: more)
    have hfractionNe : (e :: more).takeWhile Char.isDigit ≠ [] := by
      rw [List.takeWhile_cons_of_pos he]
      exact List.cons_ne_nil _ _
    have hlength (fraction : List Char) : (c.rest.takeWhile Char.isDigit).length + 1
        + fraction.length = (c.rest.takeWhile Char.isDigit ++ '.' :: fraction).length := by
      rw [List.length_append, List.length_cons]
      omega
    rw [hlength]
    refine spells_advance ?_ (.float hne hwhole hfractionNe hfraction hlast)
    rw [List.append_assoc, List.cons_append, ← hmore, ← hpoint]
    exact hsplit

theorem number_of_integer {c : Cursor} {digits next : List Char} {n : Int64}
    (hrest : c.rest = digits ++ next) (hdigits : ∀ d ∈ digits, d.isDigit = true)
    (hnext : Stops Char.isDigit next) (hpoint : NoFraction next)
    (hn : signed64? (appendDigits 0 digits) = some n) :
    c.number = .ok (.integer n, c.advance digits.length) := by
  rw [number_of_noFraction hrest hdigits hnext hpoint]
  exact integer_eq_ok_iff.mpr ⟨n, hn, rfl, rfl⟩

theorem number_of_float {c : Cursor} {whole fraction next : List Char}
    (hrest : c.rest = (whole ++ '.' :: fraction) ++ next)
    (hwhole : ∀ d ∈ whole, d.isDigit = true) (hne : fraction ≠ [])
    (hfraction : ∀ d ∈ fraction, d.isDigit = true) (hnext : Stops Char.isDigit next) :
    c.number = .ok (.float (floatLiteral whole fraction),
      c.advance (whole ++ '.' :: fraction).length) := by
  obtain ⟨e, more, rfl⟩ := List.exists_cons_of_ne_nil hne
  have hpoint : Stops Char.isDigit ('.' :: e :: (more ++ next)) := by
    intro d hd
    cases hd
    decide
  rw [List.append_assoc] at hrest
  have htake : (e :: (more ++ next)).takeWhile Char.isDigit = e :: more :=
    hnext.takeWhile_append hfraction
  rw [number_of_fraction hrest hwhole hpoint rfl (hfraction e List.mem_cons_self)]
  rw [List.append_eq, htake, List.length_append, List.length_cons (a := '.')]
  rw [Nat.add_right_comm, Nat.add_assoc]

/-! ### Signs -/

theorem single?_eq_none {ch : Char} (h : isNameStart ch = true ∨ ch.isDigit = true) :
    single? ch = none := by
  by_contra hne
  obtain ⟨token, hsingle⟩ := Option.ne_none_iff_exists'.mp hne
  revert h
  unfold single? at hsingle
  split at hsingle <;> first | decide | cases hsingle

theorem pair?_eq_none {ch : Char} (h : isNameStart ch = true ∨ ch.isDigit = true) (second : Char) :
    pair? ch second = none := by
  by_contra hne
  obtain ⟨token, hpair⟩ := Option.ne_none_iff_exists'.mp hne
  revert h
  unfold pair? at hpair
  split at hpair <;> first | decide | cases hpair

/-- A sign is one of two characters where there is one, and otherwise one of one. -/
theorem sign?_eq_some_iff {ch : Char} {rest : List Char} {token : Token} {length : Nat} :
    sign? (ch :: rest) = some (token, length) ↔
      (∃ second more, rest = second :: more ∧ pair? ch second = some token ∧ length = 2) ∨
      (∀ second ∈ rest.head?, pair? ch second = none) ∧ single? ch = some token ∧ length = 1 := by
  rw [sign?]
  constructor
  · intro h
    split at h
    · next found hpair =>
      cases h
      obtain ⟨second, hsecond, hpair⟩ := Option.bind_eq_some_iff.mp hpair
      cases rest with
      | nil => cases hsecond
      | cons second' more =>
        cases hsecond
        exact .inl ⟨_, more, rfl, hpair, rfl⟩
    · next hpair =>
      obtain ⟨found, hsingle, heq⟩ := Option.map_eq_some_iff.mp h
      cases heq
      exact .inr ⟨Option.bind_eq_none_iff.mp hpair, hsingle, rfl⟩
  · rintro (⟨second, more, rfl, hpair, rfl⟩ | ⟨hpair, hsingle, rfl⟩)
    · rw [List.head?_cons, Option.bind_some, hpair]
    · rw [Option.bind_eq_none_iff.mpr hpair, hsingle]
      rfl

theorem sign?_eq_none {ch : Char} (h : isNameStart ch = true ∨ ch.isDigit = true)
    (rest : List Char) : sign? (ch :: rest) = none := by
  have hpair : rest.head?.bind (pair? ch) = none :=
    Option.bind_eq_none_iff.mpr fun second _ => pair?_eq_none h second
  rw [sign?, hpair, single?_eq_none h]
  rfl

/-! ### Tokens -/

/-- The character begins neither a reference nor a string. -/
def Plain (ch : Char) : Prop :=
  ch ≠ '$' ∧ ch ≠ '"' ∧ ch ≠ '\''

theorem plain_of_isNameStart {ch : Char} (h : isNameStart ch = true ∨ ch.isDigit = true) :
    Plain ch := by
  refine ⟨?_, ?_, ?_⟩ <;> (rintro rfl; revert h; decide)

theorem plain_of_single? {ch : Char} {token : Token} (h : single? ch = some token) :
    Plain ch := by
  refine ⟨?_, ?_, ?_⟩ <;> (rintro rfl; revert h; simp [single?])

theorem plain_of_pair? {ch second : Char} {token : Token} (h : pair? ch second = some token) :
    Plain ch := by
  refine ⟨?_, ?_, ?_⟩ <;> (rintro rfl; revert h; simp [pair?])

theorem token_of_dollar {c : Cursor} {rest : List Char} (hrest : c.rest = '$' :: rest) :
    c.token = if startsWithName rest then
      .ok (.param (c.advance 1).name.1, (c.advance 1).name.2) else .ok (.dollar, c.advance 1) := by
  rw [token, hrest]
  rfl

theorem token_of_quote {c : Cursor} {quote : Char} {rest : List Char}
    (hquote : quote = '"' ∨ quote = '\'') (hrest : c.rest = quote :: rest) :
    c.token = c.string quote := by
  rw [token, hrest]
  rcases hquote with rfl | rfl <;> rfl

theorem token_of_plain {c : Cursor} {ch : Char} {rest : List Char} (hch : Plain ch)
    (hrest : c.rest = ch :: rest) :
    c.token = match sign? (ch :: rest) with
      | some (sign, length) => .ok (sign, c.advance length)
      | none =>
        if isNameStart ch then .ok (word c.name.1, c.name.2)
        else if ch.isDigit then c.number
        else if ch = '=' then .error (.loneEquals c.position)
        else .error (.unexpectedChar ch c.position) := by
  obtain ⟨hdollar, hdouble, hsingle⟩ := hch
  rw [token, hrest]
  split
  · next heq => cases heq
  · next heq => exact absurd (List.cons.inj heq).1 hdollar
  · next heq => exact absurd (List.cons.inj heq).1 hdouble
  · next heq => exact absurd (List.cons.inj heq).1 hsingle
  · next heq =>
    cases heq
    rfl

theorem token_of_digit {c : Cursor} {ch : Char} {rest : List Char} (hch : ch.isDigit = true)
    (hrest : c.rest = ch :: rest) : c.token = c.number := by
  rw [token_of_plain (plain_of_isNameStart (.inr hch)) hrest, sign?_eq_none (.inr hch)]
  dsimp only
  rw [isNameStart_of_isDigit hch, if_neg Bool.false_ne_true, if_pos hch]

theorem kind_of_char (ch : Char) : ch = '$' ∨ (ch = '"' ∨ ch = '\'') ∨ Plain ch := by
  by_cases hdollar : ch = '$'
  · exact .inl hdollar
  · by_cases hdouble : ch = '"'
    · exact .inr (.inl (.inl hdouble))
    · by_cases hsingle : ch = '\''
      · exact .inr (.inl (.inr hsingle))
      · exact .inr (.inr ⟨hdollar, hdouble, hsingle⟩)

/-- The token that is read off a place is spelled there. -/
theorem spells_of_token {c after : Cursor} {token : Token} {ch : Char} {rest : List Char}
    (hrest : c.rest = ch :: rest) (h : c.token = .ok (token, after)) : c.Spells token after := by
  rcases kind_of_char ch with rfl | hquote | hplain
  · rw [token_of_dollar hrest] at h
    split at h
    · next hname =>
      obtain ⟨name, next, rfl, hname, hnext⟩ := exists_name hname
      rw [name_of_dollar hrest hname hnext] at h
      cases h
      exact spells_advance (w := '$' :: name) hrest (.param hname hnext)
    · next hname =>
      cases h
      have hnext : Stops isNameStart rest :=
        startsWithName_eq_false_iff.mp (Bool.eq_false_iff.mpr hname)
      exact spells_advance (w := ['$']) hrest (.dollar hnext)
  · rw [token_of_quote hquote hrest] at h
    obtain ⟨body, chars, rfl, hposition, hcontent, rfl⟩ := (string_eq_ok_iff hquote hrest).mp h
    refine ⟨ch :: (body ++ [ch]), ?_, ?_, .string hquote hcontent⟩
    · rw [hrest, List.cons_append, List.append_assoc]
      rfl
    · rw [hposition, List.length_cons, List.length_append]
      rfl
  · rw [token_of_plain hplain hrest] at h
    split at h
    · next sign length hsign =>
      cases h
      rcases sign?_eq_some_iff.mp hsign with ⟨second, more, rfl, hpair, rfl⟩ | ⟨hpair, hsingle, rfl⟩
      · exact spells_advance (w := [ch, second]) hrest (.pair hpair)
      · exact spells_advance (w := [ch]) hrest (.single hsingle hpair)
    · split at h
      · next hstart =>
        have hstart : startsWithName (ch :: rest) = true := hstart
        obtain ⟨name, next, hsplit, hname, hnext⟩ := exists_name hstart
        rw [hsplit] at hrest
        rw [name_of_append hrest hname hnext] at h
        cases h
        exact spells_advance hrest (.word hname hnext)
      · split at h
        · next hdigit => exact spells_of_number hrest hdigit h
        · split at h <;> cases h

/-- A token that is spelled at a place is read off it. -/
theorem token_of_spells {c after : Cursor} {token : Token} (h : c.Spells token after) :
    c.token = .ok (token, after) := by
  obtain ⟨w, hrest, hposition, hspelled⟩ := h
  have hafter : after = c.advance w.length := Spells.eq_advance hrest hposition
  generalize after.rest = next at hrest hspelled
  subst hafter
  cases hspelled with
  | param hname hstops =>
    rw [token_of_dollar hrest, List.append_eq, if_pos (startsWithName_append hname next),
      name_of_dollar hrest hname hstops]
    rfl
  | dollar hstops =>
    have hnone : startsWithName next = false := startsWithName_eq_false_iff.mpr hstops
    rw [token_of_dollar hrest, List.append_eq, List.nil_append, hnone]
    rfl
  | @string quote body chars _ hquote hcontent =>
    rw [token_of_quote hquote hrest]
    refine (string_eq_ok_iff hquote hrest).mpr ⟨body, chars, ?_, ?_, hcontent, rfl⟩
    · rw [advance_of_append hrest, List.append_eq, List.append_assoc]
      rfl
    · rw [advance, List.length_cons, List.length_append]
      rfl
  | @pair token a b _ hsign =>
    have hsign' : sign? (a :: b :: next) = some (token, 2) :=
      sign?_eq_some_iff.mpr (.inl ⟨b, next, rfl, hsign, rfl⟩)
    rw [token_of_plain (plain_of_pair? hsign) hrest, List.append_eq, List.cons_append,
      List.nil_append, hsign']
    rfl
  | @single token a _ hsign hnone =>
    have hsign' : sign? (a :: next) = some (token, 1) :=
      sign?_eq_some_iff.mpr (.inr ⟨hnone, hsign, rfl⟩)
    rw [token_of_plain (plain_of_single? hsign) hrest, List.append_eq, List.nil_append, hsign']
    rfl
  | word hname hstops =>
    obtain ⟨ch, more, rfl, hstart⟩ := exists_cons_of_isNameChars hname
    rw [token_of_plain (plain_of_isNameStart (.inl hstart)) hrest, sign?_eq_none (.inl hstart),
      name_of_append hrest hname hstops]
    exact if_pos hstart
  | @integer digits _ n hne hdigits hstops hpoint hvalue =>
    obtain ⟨ch, more, rfl⟩ := List.exists_cons_of_ne_nil hne
    have hdigit : ch.isDigit = true := hdigits ch List.mem_cons_self
    rw [token_of_digit hdigit hrest]
    exact number_of_integer hrest hdigits hstops hpoint hvalue
  | @float whole fraction _ hne hdigits hfraction hfractionDigits hstops =>
    obtain ⟨ch, more, rfl⟩ := List.exists_cons_of_ne_nil hne
    have hdigit : ch.isDigit = true := hdigits ch List.mem_cons_self
    rw [token_of_digit hdigit hrest]
    exact number_of_float hrest hdigits hfraction hfractionDigits hstops

/-- **The lexer reads a token off a place exactly if it is spelled there**, and the end of the text
off its end. -/
theorem token_eq_ok_iff {c after : Cursor} {token : Token} :
    c.token = .ok (token, after) ↔
      c.rest = [] ∧ token = .eof ∧ after = c ∨ c.Spells token after := by
  constructor
  · intro h
    cases hrest : c.rest with
    | nil =>
      rw [Cursor.token, hrest] at h
      cases h
      exact .inl ⟨rfl, rfl, rfl⟩
    | cons ch rest => exact .inr (spells_of_token hrest h)
  · rintro (⟨hrest, rfl, rfl⟩ | h)
    · rw [Cursor.token, hrest]
    · exact token_of_spells h

end Cursor

end DocQuery
