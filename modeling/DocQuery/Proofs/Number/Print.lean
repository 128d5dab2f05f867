import DocQuery.Proofs.Number.Shortest
import DocQuery.Value.Json
import Mathlib.Data.List.TakeWhile

/-!
# Numbers as text

The text of a number says which number it is.  The text of a floating-point number is read as a
rational number, which is the decimal that its digits stand for, and a decimal is near to one
number of each sign; the text of an integer has neither a point nor an exponent.

## Main definitions

* `numeralValue` — the rational number that a numeral without a sign writes.

## Main results

* `Binary64.print_injective` — in every layout different floating-point numbers have different texts.
* `Number.print_injective` — different numbers have different texts.
-/

namespace DocQuery

/-! ### Digits -/

theorem appendDigits_eq (n : ℕ) (cs : List Char) : appendDigits n cs = Nat.ofDigitChars 10 cs n :=
  Nat.ofDigitChars_eq_foldl.symm

theorem appendDigits_append (n : ℕ) (cs cs' : List Char) :
    appendDigits n (cs ++ cs') = appendDigits (appendDigits n cs) cs' :=
  List.foldl_append

theorem appendDigits_zeros (n count : ℕ) :
    appendDigits n (List.replicate count '0') = 10 ^ count * n := by
  rw [appendDigits_eq, Nat.ofDigitChars_replicate_zero]

@[simp] theorem appendDigits_toDigits (n : ℕ) : appendDigits 0 (Nat.toDigits 10 n) = n := by
  rw [appendDigits_eq, Nat.ofDigitChars_ten_toDigits]

theorem isDigit_toDigits (n : ℕ) : ∀ c ∈ Nat.toDigits 10 n, c.isDigit = true :=
  fun _ => Nat.isDigit_of_mem_toDigits (by decide) (by decide)

theorem notMem_of_forall_isDigit {cs : List Char} (hcs : ∀ c ∈ cs, c.isDigit = true) {mark : Char}
    (hmark : mark.isDigit = false) : mark ∉ cs := by
  intro hmem
  rw [hcs mark hmem] at hmark
  cases hmark

/-- A sign is told apart from what follows it. -/
theorem sign_append_inj {p q : Prop} [Decidable p] [Decidable q] {cs cs' : List Char}
    (hcs : cs.head? ≠ some '-') (hcs' : cs'.head? ≠ some '-')
    (h : (if p then ['-'] else []) ++ cs = (if q then ['-'] else []) ++ cs') :
    (p ↔ q) ∧ cs = cs' := by
  split at h <;> split at h
  · exact ⟨iff_of_true ‹_› ‹_›, List.tail_eq_of_cons_eq h⟩
  · rw [← show ['-'] ++ cs = cs' from h] at hcs'
    exact absurd rfl hcs'
  · rw [show cs = ['-'] ++ cs' from h] at hcs
    exact absurd rfl hcs
  · exact ⟨iff_of_false ‹_› ‹_›, h⟩

/-! ### What stands before and behind a mark -/

section Mark

variable {α : Type} [DecidableEq α] {mark : α} {cs : List α}

theorem forall_ne_of_notMem (h : mark ∉ cs) : ∀ c ∈ cs, decide (c ≠ mark) = true := by
  intro c hc
  refine decide_eq_true fun heq => ?_
  subst heq
  exact h hc

theorem takeWhile_mark (h : mark ∉ cs) (rest : List α) :
    (cs ++ mark :: rest).takeWhile (· ≠ mark) = cs := by
  rw [List.takeWhile_append_of_pos (forall_ne_of_notMem h), List.takeWhile_cons_of_neg (by simp),
    List.append_nil]

theorem dropWhile_mark (h : mark ∉ cs) (rest : List α) :
    (cs ++ mark :: rest).dropWhile (· ≠ mark) = mark :: rest := by
  rw [List.dropWhile_append_of_pos (forall_ne_of_notMem h), List.dropWhile_cons_of_neg (by simp)]

/-- The first mark divides a list in one way. -/
theorem mark_inj {cs' rest rest' : List α} (h : mark ∉ cs) (h' : mark ∉ cs')
    (heq : cs ++ mark :: rest = cs' ++ mark :: rest') : cs = cs' ∧ rest = rest' := by
  have hcs : cs = cs' := by
    rw [← takeWhile_mark h rest, heq, takeWhile_mark h' rest']
  subst hcs
  exact ⟨rfl, (List.cons.inj (List.append_cancel_left heq)).2⟩

theorem takeWhile_no_mark (h : mark ∉ cs) : cs.takeWhile (· ≠ mark) = cs :=
  List.takeWhile_eq_self_iff.mpr (forall_ne_of_notMem h)

theorem dropWhile_no_mark (h : mark ∉ cs) : cs.dropWhile (· ≠ mark) = [] :=
  List.dropWhile_eq_nil_iff.mpr (forall_ne_of_notMem h)

end Mark

/-! ### The value of a numeral -/

/-- The value of digits around a point. -/
def fixedValue (cs : List Char) : ℚ :=
  let whole := cs.takeWhile (· ≠ '.')
  let fraction := (cs.dropWhile (· ≠ '.')).drop 1
  appendDigits 0 (whole ++ fraction) / 10 ^ fraction.length

/-- The value of a power of ten with an optional sign. -/
def powerValue : List Char → ℤ
  | '-' :: digits => -appendDigits 0 digits
  | '+' :: digits => appendDigits 0 digits
  | digits => appendDigits 0 digits

/-- The value of digits around a point and an optional power of ten behind an exponent mark. -/
def numeralValue (cs : List Char) : ℚ :=
  fixedValue (cs.takeWhile (· ≠ 'e')) * 10 ^ powerValue ((cs.dropWhile (· ≠ 'e')).drop 1)

theorem fixedValue_point {whole : List Char} (hwhole : '.' ∉ whole) (fraction : List Char) :
    fixedValue (whole ++ '.' :: fraction)
      = appendDigits 0 (whole ++ fraction) / 10 ^ fraction.length := by
  rw [fixedValue, takeWhile_mark hwhole, dropWhile_mark hwhole]
  rfl

theorem fixedValue_whole {whole : List Char} (hwhole : '.' ∉ whole) :
    fixedValue whole = appendDigits 0 whole := by
  rw [fixedValue, takeWhile_no_mark hwhole, dropWhile_no_mark hwhole]
  simp

theorem numeralValue_fixed {fixed : List Char} (hfixed : 'e' ∉ fixed) :
    numeralValue fixed = fixedValue fixed := by
  rw [numeralValue, takeWhile_no_mark hfixed, dropWhile_no_mark hfixed]
  simp [powerValue, appendDigits]

theorem numeralValue_power {fixed : List Char} (hfixed : 'e' ∉ fixed) (power : List Char) :
    numeralValue (fixed ++ 'e' :: power) = fixedValue fixed * 10 ^ powerValue power := by
  rw [numeralValue, takeWhile_mark hfixed, dropWhile_mark hfixed]
  rfl

theorem powerValue_digits {cs : List Char} (hcs : ∀ c ∈ cs, c.isDigit = true) :
    powerValue cs = appendDigits 0 cs := by
  cases cs with
  | nil => rfl
  | cons c cs =>
    have hc : c.isDigit = true := hcs c List.mem_cons_self
    have hminus : c ≠ '-' := by
      rintro rfl
      cases hc
    have hplus : c ≠ '+' := by
      rintro rfl
      cases hc
    unfold powerValue
    split
    · next heq => exact absurd (List.cons.inj heq).1 hminus
    · next heq => exact absurd (List.cons.inj heq).1 hplus
    · rfl

/-- The sign before a power of ten makes up for its magnitude. -/
theorem powerValue_sign (plusSign : Bool) (exponent : ℤ) :
    powerValue ((if exponent < 0 then ['-'] else if plusSign then ['+'] else [])
      ++ Nat.toDigits 10 exponent.natAbs) = exponent := by
  split
  · rw [List.singleton_append, powerValue, appendDigits_toDigits]
    omega
  · split
    · rw [List.singleton_append, powerValue, appendDigits_toDigits]
      omega
    · rw [List.nil_append, powerValue_digits (isDigit_toDigits _), appendDigits_toDigits]
      omega

/-! ### The two ways to write digits -/

theorem isDigit_zeros (count : ℕ) : ∀ c ∈ List.replicate count '0', c.isDigit = true := by
  intro c hc
  rw [List.eq_of_mem_replicate hc]
  rfl

section Layout

variable {digits : List Char}

/-- Written positionally the digits keep their places around the point. -/
theorem exists_positional_eq (hdigits : ∀ c ∈ digits, c.isDigit = true) (point : ℤ) :
    ∃ whole fraction, positional digits point = whole ++ '.' :: fraction
      ∧ (∀ c ∈ whole ++ fraction, c.isDigit = true)
      ∧ (appendDigits 0 (whole ++ fraction) : ℚ)
        = appendDigits 0 digits * 10 ^ (point - digits.length + fraction.length) := by
  unfold positional
  split
  · next hpoint =>
    refine ⟨['0'], List.replicate (-point).toNat '0' ++ digits, rfl, ?_, ?_⟩
    · refine List.forall_mem_append.mpr ⟨isDigit_zeros 1, ?_⟩
      exact List.forall_mem_append.mpr ⟨isDigit_zeros _, hdigits⟩
    · have hzero : appendDigits 0 (['0'] ++ (List.replicate (-point).toNat '0' ++ digits))
          = appendDigits 0 digits := by
        rw [appendDigits_append, appendDigits_append, appendDigits_zeros]
        rfl
      rw [hzero, List.length_append, List.length_replicate,
        show point - digits.length + ((-point).toNat + digits.length : ℕ) = 0 by omega, zpow_zero,
        mul_one]
  · next hpoint =>
    split
    · next hlength =>
      refine ⟨digits ++ List.replicate (point.toNat - digits.length) '0', ['0'], by simp, ?_, ?_⟩
      · refine List.forall_mem_append.mpr ⟨?_, isDigit_zeros 1⟩
        exact List.forall_mem_append.mpr ⟨hdigits, isDigit_zeros _⟩
      · rw [appendDigits_append, appendDigits_append, appendDigits_zeros,
          show (['0'] : List Char) = List.replicate 1 '0' from rfl, appendDigits_zeros,
          List.length_replicate, show point - digits.length + (1 : ℕ)
            = ((point.toNat - digits.length + 1 : ℕ) : ℤ) by omega, zpow_natCast]
        push_cast
        ring
    · next hlength =>
      refine ⟨digits.take point.toNat, digits.drop point.toNat, ?_, ?_, ?_⟩
      · rw [List.append_assoc]
        rfl
      · rwa [List.take_append_drop]
      · rw [List.take_append_drop, List.length_drop,
          show point - digits.length + (digits.length - point.toNat : ℕ) = 0 by omega, zpow_zero,
          mul_one]

theorem notMem_positional (hdigits : ∀ c ∈ digits, c.isDigit = true) (point : ℤ) {mark : Char}
    (hmark : mark.isDigit = false) (hne : mark ≠ '.') : mark ∉ positional digits point := by
  obtain ⟨whole, fraction, heq, hall, -⟩ := exists_positional_eq hdigits point
  obtain ⟨hwhole, hfraction⟩ := List.forall_mem_append.mp hall
  rw [heq, List.mem_append, List.mem_cons]
  rintro (h | h | h)
  · exact notMem_of_forall_isDigit hwhole hmark h
  · exact hne h
  · exact notMem_of_forall_isDigit hfraction hmark h

theorem numeralValue_positional (hdigits : ∀ c ∈ digits, c.isDigit = true) (point : ℤ) :
    numeralValue (positional digits point)
      = appendDigits 0 digits * 10 ^ (point - digits.length) := by
  rw [numeralValue_fixed (notMem_positional hdigits point rfl (by decide))]
  obtain ⟨whole, fraction, heq, hall, hvalue⟩ := exists_positional_eq hdigits point
  have hwhole := (List.forall_mem_append.mp hall).1
  rw [heq, fixedValue_point (notMem_of_forall_isDigit hwhole rfl), hvalue,
    zpow_add₀ (by norm_num), zpow_natCast, ← mul_assoc, mul_div_cancel_right₀ _ (by positivity)]

/-- Written with a power of ten the first digit stands before the point. -/
theorem exists_scientific_eq (hdigits : ∀ c ∈ digits, c.isDigit = true) (hne : digits ≠ [])
    (plusSign : Bool) (exponent : ℤ) :
    ∃ fixed power, scientific plusSign digits exponent = fixed ++ 'e' :: power ∧ 'e' ∉ fixed
      ∧ powerValue power = exponent
      ∧ fixedValue fixed = appendDigits 0 digits / 10 ^ (digits.length - 1) := by
  obtain ⟨first, rest, rfl⟩ := List.exists_cons_of_ne_nil hne
  have he : 'e' ∉ first :: rest := notMem_of_forall_isDigit hdigits rfl
  have hpoint : '.' ∉ first :: rest := notMem_of_forall_isDigit hdigits rfl
  refine ⟨first :: (if (first :: rest).length ≤ 1 then [] else '.' :: rest), _, ?_, ?_,
    powerValue_sign plusSign exponent, ?_⟩
  · simp [scientific]
  · cases rest with
    | nil => simpa using he
    | cons second rest =>
      simpa using he
  · cases rest with
    | nil =>
      have hvalue := fixedValue_whole hpoint
      simpa using hvalue
    | cons second rest =>
      have hfirst : '.' ∉ [first] := fun h => hpoint (List.mem_append_left (second :: rest) h)
      exact fixedValue_point hfirst (second :: rest)

theorem numeralValue_scientific (hdigits : ∀ c ∈ digits, c.isDigit = true) (hne : digits ≠ [])
    (plusSign : Bool) (exponent : ℤ) :
    numeralValue (scientific plusSign digits exponent)
      = appendDigits 0 digits * 10 ^ (exponent + 1 - digits.length) := by
  obtain ⟨fixed, power, heq, he, hpower, hvalue⟩ :=
    exists_scientific_eq hdigits hne plusSign exponent
  have hlength : 0 < digits.length := List.length_pos_of_ne_nil hne
  rw [heq, numeralValue_power he, hpower, hvalue, show exponent + 1 - digits.length
    = exponent - (digits.length - 1 : ℕ) by omega, zpow_sub₀ (by norm_num), zpow_natCast]
  ring

end Layout

/-! ### Floating-point numbers -/

namespace Binary64

/-- A number in a layout, without its sign. -/
def unsignedPrint (layout : FloatLayout) (x : Binary64) : List Char :=
  if x.isZero then ['0', '.', '0']
  else
    let digits := Nat.toDigits 10 (x.shortestDigits layout.tie).1
    let leading := (x.shortestDigits layout.tie).2 + digits.length - 1
    if layout.lowest ≤ leading ∧ leading ≤ layout.highest then positional digits (leading + 1)
    else scientific layout.plusSign digits leading

theorem toList_print (layout : FloatLayout) (x : Binary64) :
    (x.print layout).toList = (if x.negative then ['-'] else []) ++ x.unsignedPrint layout := by
  by_cases hzero : x.isZero = true
  · simp only [print, unsignedPrint, if_pos hzero, String.toList_ofList]
  · simp only [print, unsignedPrint, if_neg hzero, String.toList_ofList]

/-- The value that a number's text stands for. -/
def printedValue (layout : FloatLayout) (x : Binary64) : ℚ :=
  if x.isZero then 0 else (x.shortestDigits layout.tie).1 * 10 ^ (x.shortestDigits layout.tie).2

theorem numeralValue_unsignedPrint (layout : FloatLayout) (x : Binary64) :
    numeralValue (x.unsignedPrint layout) = x.printedValue layout := by
  have hdigits := isDigit_toDigits (x.shortestDigits layout.tie).1
  unfold unsignedPrint printedValue
  split
  · have hzero : fixedValue (['0'] ++ '.' :: ['0']) = _ := fixedValue_point (by decide) ['0']
    have hnone : appendDigits 0 (['0'] ++ ['0']) = 0 := rfl
    rw [hnone, Nat.cast_zero, zero_div] at hzero
    rw [numeralValue_fixed (by decide)]
    exact hzero
  · dsimp only
    split
    · rw [numeralValue_positional hdigits, appendDigits_toDigits]
      congr 2
      omega
    · rw [numeralValue_scientific hdigits Nat.toDigits_ne_nil, appendDigits_toDigits]
      congr 2
      omega

theorem near_printedValue {x : Binary64} (hx : x.isZero = false) (layout : FloatLayout) :
    x.Near (x.printedValue layout) := by
  rw [printedValue, hx]
  exact near_shortestDigits hx layout.tie

theorem printedValue_eq_zero_iff {layout : FloatLayout} {x : Binary64} :
    x.printedValue layout = 0 ↔ x.isZero = true := by
  cases hx : x.isZero with
  | true =>
    rw [printedValue, if_pos hx]
    exact iff_of_true rfl rfl
  | false =>
    have hpos := (near_printedValue hx layout).pos hx
    exact iff_of_false hpos.ne' (by decide)

theorem eq_zero_of_isZero {x : Binary64} (hx : x.isZero = true) : x = zero x.negative := by
  have hsignificand : x.significand = 0 := eq_of_beq hx
  have hexponent : x.exponent = -1074 := by
    rcases x.canonical with he | ⟨-, hle⟩
    · exact he
    · rw [hsignificand] at hle
      exact absurd hle (by decide)
  cases x
  simp only at hsignificand hexponent
  subst hsignificand hexponent
  rfl

/-- The value of its text determines the magnitude of a number. -/
theorem eq_of_printedValue_eq {x y : Binary64} {layout : FloatLayout}
    (h : x.printedValue layout = y.printedValue layout) (hsign : x.negative = y.negative) :
    x = y := by
  have hzero : x.isZero = y.isZero := by
    rw [Bool.eq_iff_iff, ← printedValue_eq_zero_iff, h, printedValue_eq_zero_iff]
  cases hx : x.isZero with
  | true => rw [eq_zero_of_isZero hx, eq_zero_of_isZero (hzero.symm.trans hx), hsign]
  | false =>
    have hy : y.isZero = false := hzero.symm.trans hx
    have hnear := near_printedValue hx layout
    have hnear' := near_printedValue hy layout
    rw [← h] at hnear'
    exact hnear.eq hnear' (hnear.pos hx) hsign

theorem unsignedPrint_head? (layout : FloatLayout) (x : Binary64) :
    (x.unsignedPrint layout).head? ≠ some '-' := by
  have hdigits := isDigit_toDigits (x.shortestDigits layout.tie).1
  have hne : Nat.toDigits 10 (x.shortestDigits layout.tie).1 ≠ [] := Nat.toDigits_ne_nil
  unfold unsignedPrint
  split
  · decide
  · dsimp only
    generalize Nat.toDigits 10 (x.shortestDigits layout.tie).1 = digits at hdigits hne
    split
    · intro h
      exact notMem_positional hdigits _ rfl (by decide) (List.mem_of_head? h)
    · obtain ⟨first, rest, rfl⟩ := List.exists_cons_of_ne_nil hne
      intro h
      have hfirst : first = '-' := Option.some.inj h
      rw [hfirst] at hdigits
      exact absurd (hdigits '-' List.mem_cons_self) (by decide)

/-- The text has a point or an exponent mark. -/
theorem mem_unsignedPrint (layout : FloatLayout) (x : Binary64) :
    '.' ∈ x.unsignedPrint layout ∨ 'e' ∈ x.unsignedPrint layout := by
  have hdigits := isDigit_toDigits (x.shortestDigits layout.tie).1
  unfold unsignedPrint
  split
  · exact .inl (by decide)
  · dsimp only
    generalize Nat.toDigits 10 (x.shortestDigits layout.tie).1 = digits at hdigits
    split
    · obtain ⟨whole, fraction, heq, -⟩ := exists_positional_eq hdigits
        ((x.shortestDigits layout.tie).2 + digits.length - 1 + 1)
      rw [heq]
      exact .inl (List.mem_append_right whole List.mem_cons_self)
    · exact .inr (by simp [scientific])

/-- In every layout different numbers have different texts. -/
theorem print_injective (layout : FloatLayout) : Function.Injective (print layout) := by
  intro x y h
  have htext := congrArg String.toList h
  rw [toList_print, toList_print] at htext
  obtain ⟨hsign, hunsigned⟩ :=
    sign_append_inj (x.unsignedPrint_head? layout) (y.unsignedPrint_head? layout) htext
  have hvalue : x.printedValue layout = y.printedValue layout := by
    rw [← numeralValue_unsignedPrint, hunsigned, numeralValue_unsignedPrint]
  exact eq_of_printedValue_eq hvalue (Bool.eq_iff_iff.mpr hsign)

end Binary64

/-! ### Numbers of a document -/

/-- The text of an integer. -/
def integerText (n : ℤ) : List Char :=
  (if n < 0 then ['-'] else []) ++ Nat.toDigits 10 n.natAbs

theorem toList_toString_int (n : ℤ) : (toString n).toList = integerText n := by
  cases n with
  | ofNat n => simp [integerText, toString, Int.repr, Nat.repr_eq_ofList_toDigits]
  | negSucc n => simp [integerText, toString, Int.repr, Nat.repr_eq_ofList_toDigits]

theorem integerText_injective : Function.Injective integerText := by
  intro m n h
  have hhead (k : ℕ) : (Nat.toDigits 10 k).head? ≠ some '-' := by
    intro hk
    exact absurd (isDigit_toDigits k _ (List.mem_of_head? hk)) (by decide)
  obtain ⟨hsign, hdigits⟩ := sign_append_inj (hhead _) (hhead _) h
  have habs : m.natAbs = n.natAbs := by
    rw [← appendDigits_toDigits m.natAbs, hdigits, appendDigits_toDigits]
  omega

theorem notMem_integerText (n : ℤ) {mark : Char} (hmark : mark.isDigit = false) (hne : mark ≠ '-') :
    mark ∉ integerText n := by
  rw [integerText, List.mem_append]
  rintro (h | h)
  · split at h
    · exact hne (List.mem_singleton.mp h)
    · cases h
  · exact notMem_of_forall_isDigit (isDigit_toDigits _) hmark h

namespace Number

theorem print_of_integer? {n : Number} {k : ℤ} (h : n.integer? = some k) :
    n.print = integerText k := by
  cases n with
  | int n =>
    cases h
    exact toList_toString_int _
  | large n _ =>
    cases h
    exact toList_toString_int n.toNat
  | real x => cases h

/-- The two types of integers have no integer in common. -/
theorem integer?_inj {m n : Number} {k : ℤ} (hm : m.integer? = some k) (hn : n.integer? = some k) :
    m = n := by
  have hbeyond {i : Int64} {j : UInt64} (hj : pow2 63 ≤ j.toNat) : i.toInt ≠ j.toNat := by
    have hlt : i.toInt < pow2 63 := i.toInt_lt
    omega
  cases m <;> cases n <;> simp only [integer?, Option.some.injEq, reduceCtorEq] at hm hn <;>
    have heq := hm.trans hn.symm
  · rw [Int64.toInt_inj.mp heq]
  · next i j hj => exact absurd heq (hbeyond hj)
  · next j hj i => exact absurd heq.symm (hbeyond hj)
  · simp only [Nat.cast_inj] at heq
    simp only [UInt64.toNat_inj.mp heq]

/-- The text of a floating-point number is not that of an integer. -/
theorem print_real_ne {x : Binary64} {k : ℤ} : (real x).print ≠ integerText k := by
  intro h
  have hmem (c : Char) (hc : c ∈ x.unsignedPrint documentLayout) : c ∈ integerText k := by
    rw [← h, print, Binary64.toList_print]
    exact List.mem_append_right _ hc
  rcases x.mem_unsignedPrint documentLayout with hc | hc
  · exact notMem_integerText k rfl (by decide) (hmem _ hc)
  · exact notMem_integerText k rfl (by decide) (hmem _ hc)

theorem integer_or_real (n : Number) : (∃ k, n.integer? = some k) ∨ ∃ x, n = real x := by
  cases n with
  | int n => exact .inl ⟨_, rfl⟩
  | large n _ => exact .inl ⟨_, rfl⟩
  | real x => exact .inr ⟨x, rfl⟩

/-- Different numbers have different texts. -/
theorem print_injective : Function.Injective print := by
  intro m n h
  rcases m.integer_or_real with ⟨k, hm⟩ | ⟨x, rfl⟩ <;>
    rcases n.integer_or_real with ⟨l, hn⟩ | ⟨y, rfl⟩
  · rw [print_of_integer? hm, print_of_integer? hn] at h
    rw [integerText_injective h] at hm
    exact integer?_inj hm hn
  · rw [print_of_integer? hm] at h
    exact absurd h.symm print_real_ne
  · rw [print_of_integer? hn] at h
    exact absurd h print_real_ne
  · exact congrArg real (Binary64.print_injective documentLayout (String.toList_injective h))

end Number

end DocQuery
