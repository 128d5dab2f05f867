import DocQuery.Proofs.Query.ReadBack
import DocQuery.Proofs.Value.Atoms

/-!
# Where numbers and quoted texts end

In a message nothing marks off a number or a quoted text but its own characters.  A number without a
sign goes on with its digits, with a point in front of a digit and with a power of ten; a quoted
text goes on to the first quote that has no backslash in front of it.

## Main definitions

* `IsNumeral` — the characters of a number without a sign.
* `shortEscape?` — the characters for which another one stands behind a backslash.

## Main results

* `IsNumeral.append_inj` — a number is told from what follows it.
* `Binary64.isNumeral_unsignedPrint` — floating-point numbers have such characters.
* `quoted_append_inj` — a quoted text is told from what follows it.
-/

namespace DocQuery

open Text

/-! ### Numerals -/

/-- One digit or more. -/
structure IsDigits (cs : List Char) : Prop where
  ne_nil : cs ≠ []
  digit : ∀ c ∈ cs, c.isDigit = true

/-- A fraction behind a point, or none. -/
inductive IsFraction : List Char → Prop
  | none : IsFraction []
  | some {digits : List Char} (h : IsDigits digits) : IsFraction ('.' :: digits)

/-- A power of ten, or none. -/
inductive IsPower : List Char → Prop
  | none : IsPower []
  | some {sign digits : List Char} (hsign : sign = [] ∨ sign = ['-']) (h : IsDigits digits) :
      IsPower ('e' :: (sign ++ digits))

/-- A number without a sign: digits with a fraction and a power of ten. -/
inductive IsNumeral : List Char → Prop
  | mk {whole fraction power : List Char} (hwhole : IsDigits whole) (hfraction : IsFraction fraction)
      (hpower : IsPower power) : IsNumeral (whole ++ (fraction ++ power))

theorem IsDigits.exists_cons {cs : List Char} (h : IsDigits cs) :
    ∃ d rest, cs = d :: rest ∧ d.isDigit = true := by
  obtain ⟨d, rest, rfl⟩ := List.exists_cons_of_ne_nil h.ne_nil
  exact ⟨d, rest, rfl, h.digit d List.mem_cons_self⟩

theorem IsNumeral.exists_cons {cs : List Char} (h : IsNumeral cs) :
    ∃ d rest, cs = d :: rest ∧ d.isDigit = true := by
  obtain ⟨hwhole, -, -⟩ := h
  obtain ⟨d, rest, rfl, hd⟩ := hwhole.exists_cons
  exact ⟨d, _, rfl, hd⟩

section Inj

variable {cs cs' next next' : List Char}

/-- Digits do not go on where what follows neither is one nor begins with a point and one. -/
theorem IsFraction.append_inj (h : IsFraction cs) (h' : IsFraction cs')
    (hnext : Stops Char.isDigit next) (hnext' : Stops Char.isDigit next') (hpoint : NoFraction next)
    (hpoint' : NoFraction next') (heq : cs ++ next = cs' ++ next') : cs = cs' ∧ next = next' := by
  -- a point in front of a digit is never left for what follows
  cases h with
  | none =>
    cases h' with
    | none => exact ⟨rfl, heq⟩
    | some h' =>
      obtain ⟨d, rest, rfl, hd⟩ := h'.exists_cons
      rw [hpoint d (rest ++ next') heq] at hd
      cases hd
  | some h =>
    cases h' with
    | none =>
      obtain ⟨d, rest, rfl, hd⟩ := h.exists_cons
      rw [hpoint' d (rest ++ next) heq.symm] at hd
      cases hd
    | some h' =>
      obtain ⟨rfl, rfl⟩ := hnext.append_inj hnext' h.digit h'.digit (List.cons.inj heq).2
      exact ⟨rfl, rfl⟩

theorem IsPower.append_inj (h : IsPower cs) (h' : IsPower cs') (hnext : Stops isNamePart next)
    (hnext' : Stops isNamePart next') (heq : cs ++ next = cs' ++ next') :
    cs = cs' ∧ next = next' := by
  have hmark : isNamePart 'e' = true := by decide
  cases h with
  | none =>
    cases h' with
    | none => exact ⟨rfl, heq⟩
    | some hsign' h' =>
      rw [show next = 'e' :: _ from heq, stops_cons, hmark] at hnext
      cases hnext
  | @some sign digits hsign h =>
    cases h' with
    | none =>
      rw [show next' = 'e' :: _ from heq.symm, stops_cons, hmark] at hnext'
      cases hnext'
    | @some sign' digits' hsign' h' =>
      have hdigits := (stops_isDigit hnext).append_inj (stops_isDigit hnext') h.digit h'.digit
      have hrest := (List.cons.inj heq).2
      rw [List.append_eq, List.append_eq, List.append_assoc, List.append_assoc] at hrest
      obtain ⟨d, rest, rfl, hd⟩ := h.exists_cons
      obtain ⟨d', rest', rfl, hd'⟩ := h'.exists_cons
      -- a sign is no digit, so both powers have one or neither has
      rcases hsign with rfl | rfl <;> rcases hsign' with rfl | rfl
      · obtain ⟨hsame, hnexts⟩ := hdigits hrest
        exact ⟨by rw [hsame], hnexts⟩
      · rw [(List.cons.inj hrest).1] at hd
        cases hd
      · rw [← (List.cons.inj hrest).1] at hd'
        cases hd'
      · obtain ⟨hsame, hnexts⟩ := hdigits (List.cons.inj hrest).2
        exact ⟨by rw [hsame], hnexts⟩

theorem IsPower.stops_append (h : IsPower cs) (hnext : Ends next) :
    Stops Char.isDigit (cs ++ next) ∧ NoFraction (cs ++ next) := by
  cases h with
  | none => exact ⟨stops_isDigit hnext.name, hnext.point⟩
  | some hsign h => exact ⟨stops_cons.mpr rfl, nofun⟩

theorem IsFraction.stops_append (h : IsFraction cs) (hnext : Stops Char.isDigit next) :
    Stops Char.isDigit (cs ++ next) := by
  cases h with
  | none => exact hnext
  | some h => exact stops_cons.mpr rfl

/-- A number without a sign is told from what follows it. -/
theorem IsNumeral.append_inj (h : IsNumeral cs) (h' : IsNumeral cs') (hnext : Ends next)
    (hnext' : Ends next') (heq : cs ++ next = cs' ++ next') : cs = cs' ∧ next = next' := by
  obtain ⟨hwhole, hfraction, hpower⟩ := h
  obtain ⟨hwhole', hfraction', hpower'⟩ := h'
  obtain ⟨hstops, hpoint⟩ := hpower.stops_append hnext
  obtain ⟨hstops', hpoint'⟩ := hpower'.stops_append hnext'
  simp only [List.append_assoc] at heq
  -- the parts end one after the other, each where the next one begins
  obtain ⟨rfl, hrest⟩ := (hfraction.stops_append hstops).append_inj
    (hfraction'.stops_append hstops') hwhole.digit hwhole'.digit heq
  obtain ⟨rfl, hlast⟩ := hfraction.append_inj hfraction' hstops hstops' hpoint hpoint' hrest
  obtain ⟨rfl, rfl⟩ := hpower.append_inj hpower' hnext.name hnext'.name hlast
  exact ⟨rfl, rfl⟩

end Inj

theorem isDigits_toDigits (n : Nat) : IsDigits (Nat.toDigits 10 n) :=
  ⟨Nat.toDigits_ne_nil, isDigit_toDigits n⟩

theorem isDigits_zero : IsDigits ['0'] :=
  ⟨List.cons_ne_nil _ _, isDigit_zeros 1⟩

theorem IsDigits.isNumeral {cs : List Char} (h : IsDigits cs) : IsNumeral cs := by
  have hnumeral := IsNumeral.mk h .none .none
  rwa [List.append_nil, List.append_nil] at hnumeral

theorem isNumeral_positional {digits : List Char} (h : IsDigits digits) (point : Int) :
    IsNumeral (positional digits point) := by
  have hpoint {whole fraction : List Char} (hwhole : IsDigits whole) (hfraction : IsDigits fraction) :
      IsNumeral (whole ++ '.' :: fraction) := by
    have hnumeral := IsNumeral.mk hwhole (.some hfraction) .none
    rwa [List.append_nil] at hnumeral
  unfold positional
  split
  · refine hpoint isDigits_zero ⟨List.append_ne_nil_of_right_ne_nil _ h.ne_nil, ?_⟩
    exact List.forall_mem_append.mpr ⟨isDigit_zeros _, h.digit⟩
  · next hpositive =>
    split
    · have hzeros := isDigit_zeros (point.toNat - digits.length)
      have hwhole : IsDigits (digits ++ List.replicate (point.toNat - digits.length) '0') :=
        ⟨List.append_ne_nil_of_left_ne_nil h.ne_nil _, List.forall_mem_append.mpr ⟨h.digit, hzeros⟩⟩
      exact hpoint hwhole isDigits_zero
    · next hlength =>
      have htake : digits.take point.toNat ≠ [] := by
        rw [← List.length_pos_iff, List.length_take]
        have hpos := List.length_pos_iff.mpr h.ne_nil
        omega
      have hdrop : digits.drop point.toNat ≠ [] := by
        rw [← List.length_pos_iff, List.length_drop]
        omega
      rw [List.append_assoc, List.singleton_append]
      exact hpoint ⟨htake, fun c hc => h.digit c (List.mem_of_mem_take hc)⟩
        ⟨hdrop, fun c hc => h.digit c (List.mem_of_mem_drop hc)⟩

theorem isNumeral_scientific {digits : List Char} (h : IsDigits digits) (exponent : Int) :
    IsNumeral (scientific false digits exponent) := by
  obtain ⟨first, rest, rfl, hfirst⟩ := h.exists_cons
  have hwhole : IsDigits [first] :=
    ⟨List.cons_ne_nil _ _, List.forall_mem_singleton.mpr hfirst⟩
  have hfraction :
      IsFraction (if (first :: rest).length ≤ 1 then [] else '.' :: (first :: rest).drop 1) := by
    split
    · exact .none
    · next hlength =>
      refine .some ⟨?_, fun c hc => h.digit c (List.mem_of_mem_drop hc)⟩
      rintro rfl
      exact hlength (Nat.le_refl 1)
  have hsign : (if exponent < 0 then ['-'] else if false then ['+'] else []) = []
      ∨ (if exponent < 0 then ['-'] else if false then ['+'] else []) = ['-'] := by
    split
    · exact .inr rfl
    · exact .inl rfl
  have hnumeral := IsNumeral.mk hwhole hfraction (.some hsign (isDigits_toDigits exponent.natAbs))
  simpa only [scientific, List.take_succ_cons, List.take_zero, List.append_assoc,
    List.cons_append, List.nil_append] using hnumeral

theorem Binary64.isNumeral_unsignedPrint (x : Binary64) :
    IsNumeral (x.unsignedPrint messageLayout) := by
  have hdigits := isDigits_toDigits (x.shortestDigits messageLayout.tie).1
  unfold unsignedPrint
  split
  · exact .mk isDigits_zero (.some isDigits_zero) .none
  · dsimp only
    split
    · exact isNumeral_positional hdigits _
    · exact isNumeral_scientific hdigits _

/-! ### Quoted texts -/

/-- The character for which another one stands behind a backslash. -/
def shortEscape? : Char → Option Char
  | '0' => some '\x00'
  | 't' => some '\t'
  | 'r' => some '\r'
  | 'n' => some '\n'
  | '\\' => some '\\'
  | '"' => some '"'
  | _ => none

/-- The three ways in which a character stands between quotes. -/
theorem escaped_cases (c : Char) :
    (∃ e, shortEscape? e = some c ∧ escaped c = ['\\', e]) ∨ escaped c = codePointEscape c ∨
      escaped c = [c] ∧ c ≠ '\\' ∧ c ≠ '"' := by
  unfold escaped
  split
  case h_7 _ _ _ _ hbackslash hquote =>
    split
    · exact .inr (.inl rfl)
    · exact .inr (.inr ⟨rfl, hbackslash, hquote⟩)
  all_goals exact .inl ⟨_, rfl, rfl⟩

theorem digitChar_inj : ∀ m < 16, ∀ n < 16, Nat.digitChar m = Nat.digitChar n → m = n := by
  decide

theorem toDigits_sixteen_inj {m n : Nat} (h : Nat.toDigits 16 m = Nat.toDigits 16 n) : m = n := by
  have hlast (k : Nat) : (Nat.toDigits 16 k).getLast? = some (k % 16).digitChar := by
    rw [Nat.toDigits_eq_if (by decide)]
    split
    · next hlt =>
      rw [Nat.mod_eq_of_lt hlt]
      rfl
    · exact List.getLast?_concat
  -- the last digits are those of the remainders, and the others those of the quotients
  induction m using Nat.strongRecOn generalizing n with
  | ind m ih =>
    have hmod : m % 16 = n % 16 := by
      have heq := congrArg List.getLast? h
      rw [hlast, hlast, Option.some.injEq] at heq
      exact digitChar_inj _ (Nat.mod_lt m (by decide)) _ (Nat.mod_lt n (by decide)) heq
    rw [Nat.toDigits_eq_if (by decide), Nat.toDigits_eq_if (n := n) (by decide)] at h
    split at h <;> split at h
    · omega
    · exact absurd (congrArg List.length h) (by simp [Nat.toDigits_ne_nil])
    · exact absurd (congrArg List.length h) (by simp [Nat.toDigits_ne_nil])
    · have hdiv := ih (m / 16) (by omega) (List.append_inj_left' h rfl)
      omega

theorem notMem_toDigits_sixteen (n : Nat) : '\x7d' ∉ Nat.toDigits 16 n := by
  have hdigit : ∀ k < 16, Nat.digitChar k ≠ '\x7d' := by decide
  induction n using Nat.strongRecOn with
  | ind n ih =>
    rw [Nat.toDigits_eq_if (by decide)]
    split
    · next hlt => exact fun h => hdigit n hlt (List.mem_singleton.mp h).symm
    · next hle =>
      rw [List.mem_append, List.mem_singleton]
      rintro (h | h)
      · exact ih (n / 16) (by omega) h
      · exact hdigit (n % 16) (Nat.mod_lt n (by decide)) h.symm

theorem codePointEscape_append_inj {c d : Char} {r r' : List Char}
    (h : codePointEscape c ++ r = codePointEscape d ++ r') : c = d ∧ r = r' := by
  simp only [codePointEscape, List.append_assoc, List.cons_append, List.nil_append] at h
  have hdigits := (List.cons.inj (List.cons.inj (List.cons.inj h).2).2).2
  obtain ⟨hcode, hrest⟩ :=
    mark_inj (notMem_toDigits_sixteen c.toNat) (notMem_toDigits_sixteen d.toNat) hdigits
  exact ⟨Char.toNat_inj.mp (toDigits_sixteen_inj hcode), hrest⟩

/-- A short escape is told from a code point by the character behind the backslash. -/
theorem shortEscape_ne_codePointEscape {e c : Char} (h : shortEscape? e = some c) (d : Char)
    (r r' : List Char) : ['\\', e] ++ r ≠ codePointEscape d ++ r' := by
  intro heq
  obtain rfl : e = 'u' := (List.cons.inj (List.cons.inj heq).2).1
  cases h

/-- A character between quotes is told from what follows it. -/
theorem escaped_append_inj {c d : Char} {r r' : List Char}
    (h : escaped c ++ r = escaped d ++ r') : c = d ∧ r = r' := by
  have hplain {c : Char} {w rest rest' : List Char} (hc : c ≠ '\\') :
      [c] ++ rest ≠ '\\' :: w ++ rest' :=
    fun heq => hc (List.cons.inj heq).1
  -- the three ways for either character: a short escape, a code point, the character itself
  obtain ⟨e, he, hc⟩ | hc | ⟨hc, hbackslash, -⟩ := escaped_cases c <;>
    obtain ⟨e', he', hd⟩ | hd | ⟨hd, hbackslash', -⟩ := escaped_cases d <;>
    rw [hc, hd] at h
  · obtain ⟨rfl, rfl⟩ := List.cons.inj (List.cons.inj h).2
    exact ⟨Option.some.inj (he.symm.trans he'), rfl⟩
  · exact absurd h (shortEscape_ne_codePointEscape he _ _ _)
  · exact absurd h.symm (hplain hbackslash')
  · exact absurd h.symm (shortEscape_ne_codePointEscape he' _ _ _)
  · exact codePointEscape_append_inj h
  · exact absurd h.symm (hplain hbackslash')
  · exact absurd h (hplain hbackslash)
  · exact absurd h (hplain hbackslash)
  · exact List.cons.inj h

theorem escaped_ne_quote (c : Char) : ∃ a rest, escaped c = a :: rest ∧ a ≠ '"' := by
  obtain ⟨e, -, heq⟩ | heq | ⟨heq, -, hquote⟩ := escaped_cases c
  · exact ⟨_, _, heq, by decide⟩
  · exact ⟨_, _, heq, by decide⟩
  · exact ⟨_, _, heq, hquote⟩

theorem quoted_append_inj {s t : String} {r r' : List Char}
    (h : (quoted s).toList ++ r = (quoted t).toList ++ r') : s = t ∧ r = r' := by
  have hbody : ∀ cs ds : List Char, cs.flatMap escaped ++ '"' :: r = ds.flatMap escaped ++ '"' :: r' →
      cs = ds ∧ r = r' := by
    intro cs
    induction cs with
    | nil =>
      intro ds heq
      -- the quote closes both texts, as no character between the quotes begins with one
      cases ds with
      | nil => exact ⟨rfl, (List.cons.inj heq).2⟩
      | cons d ds =>
        obtain ⟨a, rest, hd, ha⟩ := escaped_ne_quote d
        rw [List.flatMap_cons, hd] at heq
        exact absurd (List.cons.inj heq).1.symm ha
    | cons c cs ih =>
      intro ds heq
      cases ds with
      | nil =>
        obtain ⟨a, rest, hc, ha⟩ := escaped_ne_quote c
        rw [List.flatMap_cons, hc] at heq
        exact absurd (List.cons.inj heq).1 ha
      | cons d ds =>
        rw [List.flatMap_cons, List.flatMap_cons, List.append_assoc, List.append_assoc] at heq
        obtain ⟨rfl, hrest⟩ := escaped_append_inj heq
        obtain ⟨rfl, hlast⟩ := ih ds hrest
        exact ⟨rfl, hlast⟩
  simp only [quoted, String.toList_ofList, List.cons_append, List.append_assoc,
    List.nil_append] at h
  obtain ⟨hchars, hrest⟩ := hbody _ _ (List.cons.inj h).2
  exact ⟨String.toList_inj.mp hchars, hrest⟩

end DocQuery
