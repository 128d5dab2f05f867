import DocQuery.Proofs.Number.Print
import DocQuery.Proofs.Query.Spelling
import DocQuery.Value.Json
import DocQuery.Value.Shell

/-!
# Where numbers, strings and keys end

In a text of shell notation nothing marks off the parts but the parts themselves.  A number ends
where another character than those of numbers stands, a string at the first quote that is not
escaped, and a key without quotes at a space.

## Main definitions

* `isNumeralChar`, `isBareKeyChar` — the characters of numbers, and of keys without quotes.

## Main results

* `Number.print_append_inj` — a number is told from what follows it.
* `JsonText.stringChars?_flatMap` — the reader of JSON strings reads shell strings back.
* `shellString_append_inj`, `shellKey_append_inj` — so are strings and keys.
-/

namespace DocQuery

open Text

/-- A run of characters with a property is told from what stops it. -/
theorem Text.Stops.append_inj {p : Char → Bool} {w w' next next' : List Char}
    (hnext : Stops p next) (hnext' : Stops p next') (hw : ∀ c ∈ w, p c = true)
    (hw' : ∀ c ∈ w', p c = true) (h : w ++ next = w' ++ next') : w = w' ∧ next = next' := by
  have heq : w = w' := by
    rw [← hnext.takeWhile_append hw, h, hnext'.takeWhile_append hw']
  subst heq
  exact ⟨rfl, List.append_cancel_left h⟩

/-! ### Numbers -/

/-- The characters of which numbers are written. -/
def isNumeralChar (c : Char) : Bool :=
  c.isDigit || c == '-' || c == '+' || c == '.' || c == 'e'

theorem isNumeralChar_of_isDigit {c : Char} (h : c.isDigit = true) : isNumeralChar c = true := by
  simp [isNumeralChar, h]

theorem forall_numeralChar_of_isDigit {cs : List Char} (h : ∀ c ∈ cs, c.isDigit = true) :
    ∀ c ∈ cs, isNumeralChar c = true :=
  fun c hc => isNumeralChar_of_isDigit (h c hc)

theorem forall_numeralChar_integerText (n : ℤ) : ∀ c ∈ integerText n, isNumeralChar c = true := by
  have hdigits := forall_numeralChar_of_isDigit (isDigit_toDigits n.natAbs)
  intro c hc
  rw [integerText, List.mem_append] at hc
  rcases hc with hc | hc
  · split at hc
    · rw [List.mem_singleton.mp hc]
      rfl
    · cases hc
  · exact hdigits c hc

section Layout

variable {digits : List Char} (hdigits : ∀ c ∈ digits, c.isDigit = true)

include hdigits

theorem forall_numeralChar_positional (point : ℤ) :
    ∀ c ∈ positional digits point, isNumeralChar c = true := by
  obtain ⟨whole, fraction, heq, hall, -⟩ := exists_positional_eq hdigits point
  have hnumeral := forall_numeralChar_of_isDigit hall
  intro c hc
  rw [heq, List.mem_append, List.mem_cons] at hc
  rcases hc with hc | rfl | hc
  · exact hnumeral c (List.mem_append_left _ hc)
  · rfl
  · exact hnumeral c (List.mem_append_right _ hc)

theorem forall_numeralChar_scientific (plusSign : Bool) (exponent : ℤ) :
    ∀ c ∈ scientific plusSign digits exponent, isNumeralChar c = true := by
  have hnumeral := forall_numeralChar_of_isDigit hdigits
  have hpower := forall_numeralChar_of_isDigit (isDigit_toDigits exponent.natAbs)
  have hfraction : ∀ c ∈ (if digits.length ≤ 1 then [] else '.' :: digits.drop 1),
      isNumeralChar c = true := by
    split
    · exact List.forall_mem_nil _
    · exact List.forall_mem_cons.mpr ⟨rfl, fun c hc => hnumeral c (List.mem_of_mem_drop hc)⟩
  have hsign : ∀ c ∈ (if exponent < 0 then ['-'] else if plusSign then ['+'] else []),
      isNumeralChar c = true := by
    split
    · exact List.forall_mem_singleton.mpr rfl
    · split
      · exact List.forall_mem_singleton.mpr rfl
      · exact List.forall_mem_nil _
  simp only [scientific, List.forall_mem_append, List.forall_mem_singleton]
  exact ⟨⟨⟨⟨fun c hc => hnumeral c (List.mem_of_mem_take hc), hfraction⟩, rfl⟩, hsign⟩, hpower⟩

end Layout

theorem Binary64.forall_numeralChar_print (layout : FloatLayout) (x : Binary64) :
    ∀ c ∈ (x.print layout).toList, isNumeralChar c = true := by
  have hdigits := isDigit_toDigits (x.shortestDigits layout.tie).1
  rw [toList_print]
  refine List.forall_mem_append.mpr ⟨?_, ?_⟩
  · split
    · exact List.forall_mem_singleton.mpr rfl
    · exact List.forall_mem_nil _
  · unfold unsignedPrint
    split
    · simp [isNumeralChar]
    · dsimp only
      split
      · exact forall_numeralChar_positional hdigits _
      · exact forall_numeralChar_scientific hdigits _ _

namespace Number

theorem forall_numeralChar_print (n : Number) : ∀ c ∈ n.print, isNumeralChar c = true := by
  rcases n.integer_or_real with ⟨k, hk⟩ | ⟨x, rfl⟩
  · rw [print_of_integer? hk]
    exact forall_numeralChar_integerText k
  · exact x.forall_numeralChar_print documentLayout

theorem print_ne_nil (n : Number) : n.print ≠ [] := by
  rcases n.integer_or_real with ⟨k, hk⟩ | ⟨x, rfl⟩
  · rw [print_of_integer? hk, integerText]
    exact List.append_ne_nil_of_right_ne_nil _ Nat.toDigits_ne_nil
  · have hmem := x.mem_unsignedPrint documentLayout
    rw [print, Binary64.toList_print]
    refine List.append_ne_nil_of_right_ne_nil _ fun hnil => ?_
    simp [hnil] at hmem

/-- A number ends where no character of a number follows. -/
theorem print_append_inj {m n : Number} {r r' : List Char} (hr : Stops isNumeralChar r)
    (hr' : Stops isNumeralChar r') (h : m.print ++ r = n.print ++ r') : m = n ∧ r = r' := by
  obtain ⟨hprint, hrest⟩ :=
    hr.append_inj hr' m.forall_numeralChar_print n.forall_numeralChar_print h
  exact ⟨print_injective hprint, hrest⟩

end Number

/-! ### Strings -/

theorem toNat_lt_of_isControl {c : Char} (h : isControl c = true) : c.toNat < 0xA0 := by
  simp only [isControl, Bool.or_eq_true, Bool.and_eq_true, decide_eq_true_eq] at h
  omega

/-- A hexadecimal digit is read as its value. -/
theorem value_digitChar : ∀ k < 16, (if (Nat.digitChar k).isDigit then
      some ((Nat.digitChar k).toNat - '0'.toNat)
    else if 'a' ≤ Nat.digitChar k ∧ Nat.digitChar k ≤ 'f' then
      some ((Nat.digitChar k).toNat - 'a'.toNat + 10)
    else if 'A' ≤ Nat.digitChar k ∧ Nat.digitChar k ≤ 'F' then
      some ((Nat.digitChar k).toNat - 'A'.toNat + 10)
    else none) = some k := by
  decide

namespace JsonText

theorem fourHex?_digitChar {m n : Nat} (hm : m < 16) (hn : n < 16) (rest : List Char) :
    fourHex? ('0' :: '0' :: Nat.digitChar m :: Nat.digitChar n :: rest)
      = some (m * 16 + n, rest) := by
  -- the two leading zeros are digits like the others
  have hzero := value_digitChar 0 (by decide)
  rw [show Nat.digitChar 0 = '0' from rfl] at hzero
  unfold fourHex?
  simp only [hzero, value_digitChar m hm, value_digitChar n hn]
  simp

/-- The escape of a control character is read back. -/
theorem unicodeEscape?_of_isControl {c : Char} (h : isControl c = true) (rest : List Char) :
    unicodeEscape? ('0' :: '0' :: Nat.digitChar (c.toNat / 16) :: Nat.digitChar (c.toNat % 16)
      :: rest) = some (c, rest) := by
  have hlt := toNat_lt_of_isControl h
  have hvalue : c.toNat / 16 * 16 + c.toNat % 16 = c.toNat := Nat.div_add_mod' _ _
  rw [unicodeEscape?, fourHex?_digitChar (by omega) (by omega), hvalue]
  simp only [Option.bind_eq_bind, Option.bind_some]
  rw [if_neg (by omega), if_neg (by omega), Char.ofNat_toNat]

/-- Each character inside the quotes is read back: its escape, if it has one, is one of JSON. -/
theorem stringChars?_shellEscaped (fuel : Nat) (c : Char) (rest : List Char) :
    stringChars? (fuel + 1) (shellEscaped c ++ rest)
      = (stringChars? fuel rest).map fun p => (c :: p.1, p.2) := by
  have hread (e d : Char) (rest' : List Char) (he : escape? (e :: rest') = some (d, rest)) :
      stringChars? (fuel + 1) ('\\' :: e :: rest')
        = (stringChars? fuel rest).map fun p => (d :: p.1, p.2) := by
    rw [stringChars?, he]
    simp only [Option.bind_eq_bind, Option.bind_some]
    cases stringChars? fuel rest <;> rfl
  unfold shellEscaped
  split
  -- all but the last case are escapes with a letter or sign of their own
  case h_6 hquote hbackslash _ _ _ =>
    split
    · next hcontrol => exact hread 'u' c _ (unicodeEscape?_of_isControl hcontrol rest)
    · next hcontrol =>
      have hlow : ¬ c.toNat < 0x20 := by
        intro hlow
        simp [isControl, hlow] at hcontrol
      rw [List.singleton_append, stringChars?, if_neg hlow]
      · cases stringChars? fuel rest <;> rfl
      · exact hquote
      · exact hbackslash
  all_goals exact hread _ _ _ rfl

/-- What stands between the quotes is read back up to the closing one. -/
theorem stringChars?_flatMap {cs : List Char} {fuel : Nat} (hfuel : cs.length < fuel)
    (rest : List Char) :
    stringChars? fuel (cs.flatMap shellEscaped ++ '"' :: rest) = some (cs, rest) := by
  induction cs generalizing fuel with
  | nil =>
    obtain ⟨fuel, rfl⟩ : ∃ k, fuel = k + 1 := ⟨fuel - 1, by simp at hfuel; omega⟩
    rfl
  | cons c cs ih =>
    rw [List.length_cons] at hfuel
    obtain ⟨fuel, rfl⟩ : ∃ k, fuel = k + 1 := ⟨fuel - 1, by omega⟩
    rw [List.flatMap_cons, List.append_assoc, stringChars?_shellEscaped, ih (by omega)]
    rfl

end JsonText

/-- A string ends at its closing quote. -/
theorem shellString_append_inj {s t : String} {r r' : List Char}
    (h : shellString s ++ r = shellString t ++ r') : s = t ∧ r = r' := by
  simp only [shellString, List.cons_append, List.append_assoc, List.nil_append, List.cons.injEq,
    true_and] at h
  obtain ⟨fuel, hs, ht⟩ : ∃ fuel, s.toList.length < fuel ∧ t.toList.length < fuel :=
    ⟨s.toList.length + t.toList.length + 1, by omega, by omega⟩
  have hread := JsonText.stringChars?_flatMap hs r
  rw [h, JsonText.stringChars?_flatMap ht r'] at hread
  obtain ⟨hchars, hrest⟩ := Prod.mk.inj (Option.some.inj hread)
  exact ⟨String.toList_injective hchars.symm, hrest.symm⟩

/-! ### Keys -/

/-- A character of a key without quotes. -/
def isBareKeyChar (c : Char) : Bool :=
  c.isAlphanum || c == '_' || c == '$' || c == '.'

theorem isBareKey_iff {key : String} :
    isBareKey key = true ↔ key.toList ≠ [] ∧ ∀ c ∈ key.toList, isBareKeyChar c = true := by
  simp [isBareKey, isBareKeyChar]

/-- A key with quotes is told from one without by its first character. -/
theorem shellString_ne_of_isBareKey {key : String} (h : isBareKey key = true) (s : String)
    (r r' : List Char) : key.toList ++ r ≠ shellString s ++ r' := by
  obtain ⟨hne, hchars⟩ := isBareKey_iff.mp h
  obtain ⟨c, rest, hkey⟩ := List.exists_cons_of_ne_nil hne
  intro heq
  rw [hkey] at heq hchars
  obtain rfl : c = '"' := (List.cons.inj heq).1
  exact absurd (hchars '"' List.mem_cons_self) (by decide)

/-- A key ends at the space in front of its colon. -/
theorem shellKey_append_inj {k l : String} {r r' : List Char}
    (h : shellDialect.key k ++ ' ' :: r = shellDialect.key l ++ ' ' :: r') : k = l ∧ r = r' := by
  have hstops (r : List Char) : Stops isBareKeyChar (' ' :: r) := stops_cons.mpr (by decide)
  simp only [shellDialect] at h
  split at h <;> split at h
  · next hk hl =>
    obtain ⟨hkey, hrest⟩ := (hstops r).append_inj (hstops r') (isBareKey_iff.mp hk).2
      (isBareKey_iff.mp hl).2 h
    exact ⟨String.toList_injective hkey, (List.cons.inj hrest).2⟩
  · next hk _ => exact absurd h (shellString_ne_of_isBareKey hk l _ _)
  · next _ hl => exact absurd h.symm (shellString_ne_of_isBareKey hl k _ _)
  · obtain ⟨hkey, hrest⟩ := shellString_append_inj h
    exact ⟨hkey, (List.cons.inj hrest).2⟩

end DocQuery
