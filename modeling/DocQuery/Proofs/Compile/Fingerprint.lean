import DocQuery.Compile.Fingerprint
import DocQuery.Proofs.Number.Print
import DocQuery.Proofs.Pipeline.Induction

/-!
# What a fingerprint covers

What is written for a fingerprint determines the text of the query and the passes.  It determines
the constants and the parameters as soon as one knows where the texts end that are written without
their length: the names, the keys of objects and the numerals.  Nothing in the bytes says so, and
two parameters that divide the same bytes differently share a fingerprint.

## Main definitions

* `Context.widths` — the lengths that are not written.
* `Legible` — what is written can be read back, whatever follows it.

## Main results

* `fingerprintBytes_inj` — what the bytes determine.
-/

namespace DocQuery

/-! ### Texts in bytes -/

theorem toByteArray_textBytes (s : String) : (textBytes s).toByteArray = s.toByteArray := by
  rw [← String.utf8Encode_toList]
  rfl

theorem textBytes_injective : Function.Injective textBytes := by
  intro s t h
  rw [← String.toByteArray_inj, ← toByteArray_textBytes, h, toByteArray_textBytes]

theorem length_textBytes (s : String) : (textBytes s).length = s.utf8ByteSize := by
  rw [← List.size_toByteArray, toByteArray_textBytes, String.size_toByteArray]

/-- No byte of a text has all its bits set. -/
theorem notMem_textBytes (s : String) : 0xFF ∉ textBytes s := by
  have hne {n : Nat} (hn : n < 255) : (0xFF : UInt8) ≠ UInt8.ofNat n := by
    intro h
    have heq := congrArg UInt8.toNat h
    rw [UInt8.toNat_ofNat'] at heq
    change 255 = n % 256 at heq
    omega
  rw [textBytes, List.mem_flatMap]
  rintro ⟨c, -, h⟩
  rw [String.utf8EncodeChar] at h
  generalize c.val.toNat = code at h
  -- the first byte says how many there are, and none says that there are eight
  split_ifs at h <;> simp only [List.mem_cons, List.not_mem_nil, or_false] at h
  · exact hne (by omega) h
  · rcases h with h | h <;> exact hne (by omega) h
  · rcases h with h | h | h <;> exact hne (by omega) h
  · rcases h with h | h | h | h <;> exact hne (by omega) h

/-! ### Numbers in bytes -/

theorem length_littleEndian (width n : Nat) : (littleEndian width n).length = width := by
  induction width generalizing n with
  | zero => rfl
  | succ width ih => rw [littleEndian, List.length_cons, ih]

theorem ofLittleEndian_cons (b : UInt8) (bytes : List UInt8) :
    ofLittleEndian (b :: bytes) = b.toNat + 256 * ofLittleEndian bytes := rfl

theorem ofLittleEndian_littleEndian (width n : Nat) :
    ofLittleEndian (littleEndian width n) = n % 256 ^ width := by
  induction width generalizing n with
  | zero => exact (Nat.mod_one n).symm
  | succ width ih =>
    have hbyte : (UInt8.ofNat (n % 256)).toNat = n % 256 := by
      rw [UInt8.toNat_ofNat']
      exact Nat.mod_mod n 256
    rw [littleEndian, ofLittleEndian_cons, hbyte, ih, Nat.pow_succ', Nat.mod_mul]

/-- Below `2 ^ 64` nothing of a number is lost, and it ends after eight bytes. -/
theorem wordBytes_append_inj {m n : Nat} {rest rest' : List UInt8} (hm : m < pow2 64)
    (hn : n < pow2 64) (h : wordBytes m ++ rest = wordBytes n ++ rest') : m = n ∧ rest = rest' := by
  have hlength : (wordBytes m).length = (wordBytes n).length := by
    rw [wordBytes, wordBytes, length_littleEndian, length_littleEndian]
  obtain ⟨hword, hrest⟩ := List.append_inj h hlength
  have hpow : (256 : Nat) ^ 8 = pow2 64 := rfl
  have heq := congrArg ofLittleEndian hword
  rw [wordBytes, wordBytes, ofLittleEndian_littleEndian, ofLittleEndian_littleEndian, hpow,
    Nat.mod_eq_of_lt hm, Nat.mod_eq_of_lt hn] at heq
  exact ⟨heq, hrest⟩

theorem flagByte_injective : Function.Injective flagByte := by
  decide

/-! ### Reading back -/

section Legible

variable {α β : Type} {bytes : α → List UInt8} {widths : α → List Nat}
  {bytes' : β → List UInt8} {widths' : β → List Nat}

/-- What is written for `a` is written for nothing else, whatever follows it, if the lengths are
known that are not written, and if there are not more bytes than can be counted. -/
def Legible (bytes : α → List UInt8) (widths : α → List Nat) (a : α) : Prop :=
  ∀ ⦃b : α⦄ ⦃rest rest' : List UInt8⦄ ⦃more more' : List Nat⦄,
    bytes a ++ rest = bytes b ++ rest' → widths a ++ more = widths b ++ more' →
    (bytes a ++ rest).length < pow2 64 → a = b ∧ rest = rest' ∧ more = more'

/-- A text is legible when its length is known. -/
theorem legible_text (s : String) : Legible textBytes (fun s => [s.utf8ByteSize]) s := by
  intro t rest rest' more more' hbytes hwidths _
  obtain ⟨hsize, rfl⟩ := List.cons.inj hwidths
  rw [← length_textBytes, ← length_textBytes] at hsize
  obtain ⟨htext, rfl⟩ := List.append_inj hbytes hsize
  exact ⟨textBytes_injective htext, rfl, rfl⟩

/-- A text behind its length is legible. -/
theorem legible_sized_text (s : String) :
    Legible (fun s => wordBytes s.utf8ByteSize ++ textBytes s) (fun _ => []) s := by
  intro t rest rest' more more' hbytes hmore hlength
  -- the bound on all bytes keeps the written length from wrapping around, on both sides
  have hlength' := hlength
  rw [hbytes] at hlength'
  simp only [List.append_assoc, List.length_append, length_textBytes] at hbytes hlength hlength'
  obtain ⟨hsize, hbytes⟩ := wordBytes_append_inj (by omega) (by omega) hbytes
  rw [← length_textBytes, ← length_textBytes] at hsize
  obtain ⟨htext, hrest⟩ := List.append_inj hbytes hsize
  exact ⟨textBytes_injective htext, hrest, hmore⟩

/-- Two things in a row. -/
theorem Legible.prod {a : α} {b : β} (ha : Legible bytes widths a) (hb : Legible bytes' widths' b) :
    Legible (fun p : α × β => bytes p.1 ++ bytes' p.2) (fun p => widths p.1 ++ widths' p.2)
      (a, b) := by
  rintro ⟨c, d⟩ rest rest' more more' hbytes hwidths hlength
  simp only [List.append_assoc] at hbytes hwidths hlength
  obtain ⟨rfl, hbytes, hwidths⟩ := ha hbytes hwidths hlength
  rw [List.length_append] at hlength
  obtain ⟨rfl, hrest, hmore⟩ := hb hbytes hwidths (by omega)
  exact ⟨rfl, hrest, hmore⟩

/-- A mark behind what is written. -/
theorem Legible.mark {a : α} (ha : Legible bytes widths a) (mark : List UInt8) :
    Legible (fun a => bytes a ++ mark) widths a := by
  intro b rest rest' more more' hbytes hwidths hlength
  simp only [List.append_assoc] at hbytes hlength
  obtain ⟨rfl, hbytes, hmore⟩ := ha hbytes hwidths hlength
  exact ⟨rfl, List.append_cancel_left hbytes, hmore⟩

/-- Something that is written as its parts are. -/
theorem Legible.map {f : β → α} (hf : Function.Injective f) {b : β}
    (h : Legible bytes widths (f b)) : Legible (bytes ∘ f) (widths ∘ f) b := by
  intro c rest rest' more more' hbytes hwidths hlength
  obtain ⟨heq, hrest, hmore⟩ := h hbytes hwidths hlength
  exact ⟨hf heq, hrest, hmore⟩

/-- Several things in a row, of which one knows how many there are. -/
theorem flatMap_inj {as bs : List α} {rest rest' : List UInt8} {more more' : List Nat}
    (has : ∀ a ∈ as, Legible bytes widths a) (hcount : as.length = bs.length)
    (hbytes : as.flatMap bytes ++ rest = bs.flatMap bytes ++ rest')
    (hwidths : as.flatMap widths ++ more = bs.flatMap widths ++ more')
    (hlength : (as.flatMap bytes ++ rest).length < pow2 64) :
    as = bs ∧ rest = rest' ∧ more = more' := by
  induction as generalizing bs with
  | nil =>
    cases bs with
    | nil => exact ⟨rfl, hbytes, hwidths⟩
    | cons b bs => cases hcount
  | cons a as ih =>
    cases bs with
    | nil => cases hcount
    | cons b bs =>
      obtain ⟨ha, has⟩ := List.forall_mem_cons.mp has
      rw [List.flatMap_cons, List.flatMap_cons, List.append_assoc, List.append_assoc]
        at hbytes hwidths
      rw [List.flatMap_cons, List.append_assoc] at hlength
      obtain ⟨rfl, hbytes, hwidths⟩ := ha hbytes hwidths hlength
      rw [List.length_append] at hlength
      obtain ⟨rfl, hrest, hmore⟩ := ih has (Nat.succ.inj hcount) hbytes hwidths (by omega)
      exact ⟨rfl, hrest, hmore⟩

/-- Several things in a row behind their number. -/
def countedBytes (bytes : α → List UInt8) (as : List α) : List UInt8 :=
  wordBytes as.length ++ as.flatMap bytes

theorem length_le_length_flatMap (hne : ∀ a, bytes a ≠ []) (as : List α) :
    as.length ≤ (as.flatMap bytes).length := by
  induction as with
  | nil => exact Nat.zero_le _
  | cons a as ih =>
    have ha := List.length_pos_of_ne_nil (hne a)
    rw [List.flatMap_cons, List.length_append, List.length_cons]
    omega

theorem legible_counted (hne : ∀ a, bytes a ≠ []) {as : List α}
    (has : ∀ a ∈ as, Legible bytes widths a) :
    Legible (countedBytes bytes) (List.flatMap widths) as := by
  intro bs rest rest' more more' hbytes hwidths hlength
  -- nothing is written with no bytes at all, so that the bytes bound the count on both sides
  have hle := length_le_length_flatMap hne as
  have hle' := length_le_length_flatMap hne bs
  have hlength' := hlength
  rw [hbytes] at hlength'
  simp only [countedBytes, List.append_assoc, List.length_append] at hbytes hlength hlength'
  obtain ⟨hcount, hbytes⟩ := wordBytes_append_inj (by omega) (by omega) hbytes
  refine flatMap_inj has hcount hbytes hwidths ?_
  rw [List.length_append]
  omega

end Legible

/-! ### Values -/

mutual

/-- The lengths of the keys and numerals of a value, which are not written. -/
def Value.widths : Value → List Nat
  | .null => []
  | .bool _ => []
  | .number n => [(toJson (.number n)).utf8ByteSize]
  | .string _ => []
  | .array items => widthsOfAll items
  | .object fields => widthsOfFields fields

/-- The lengths in several values. -/
def Value.widthsOfAll : List Value → List Nat
  | [] => []
  | v :: vs => v.widths ++ widthsOfAll vs

/-- The lengths in several entries. -/
def Value.widthsOfFields : List (String × Value) → List Nat
  | [] => []
  | (key, v) :: fields => key.utf8ByteSize :: v.widths ++ widthsOfFields fields

end

/-- An entry of an object written out. -/
def fieldBytes (field : String × Value) : List UInt8 :=
  textBytes field.1 ++ field.2.bytes

/-- The lengths in an entry of an object. -/
def fieldWidths (field : String × Value) : List Nat :=
  [field.1.utf8ByteSize] ++ field.2.widths

namespace Value

theorem bytesOfAll_eq (items : List Value) : bytesOfAll items = items.flatMap bytes := by
  induction items with
  | nil => rfl
  | cons v items ih => rw [bytesOfAll, ih, List.flatMap_cons]

theorem bytesOfFields_eq (fields : List (String × Value)) :
    bytesOfFields fields = fields.flatMap fieldBytes := by
  induction fields with
  | nil => rfl
  | cons field fields ih => rw [bytesOfFields, ih, List.flatMap_cons, fieldBytes]

theorem widthsOfAll_eq (items : List Value) : widthsOfAll items = items.flatMap widths := by
  induction items with
  | nil => rfl
  | cons v items ih => rw [widthsOfAll, ih, List.flatMap_cons]

theorem widthsOfFields_eq (fields : List (String × Value)) :
    widthsOfFields fields = fields.flatMap fieldWidths := by
  induction fields with
  | nil => rfl
  | cons field fields ih => rw [widthsOfFields, ih, List.flatMap_cons, fieldWidths]; rfl

theorem bytes_array (items : List Value) : (array items).bytes = 4 :: countedBytes bytes items := by
  rw [bytes, bytesOfAll_eq]
  rfl

theorem bytes_object (fields : List (String × Value)) :
    (object fields).bytes = 5 :: countedBytes fieldBytes fields := by
  rw [bytes, bytesOfFields_eq]
  rfl

theorem bytes_ne_nil (v : Value) : v.bytes ≠ [] := by
  cases v <;> simp [bytes]

theorem fieldBytes_ne_nil (field : String × Value) : fieldBytes field ≠ [] :=
  List.append_ne_nil_of_right_ne_nil _ (bytes_ne_nil field.2)

theorem toJson_number_injective {m n : Number}
    (h : toJson (.number m) = toJson (.number n)) : m = n :=
  Number.print_injective (String.ofList_injective h)

/-- A value is legible. -/
theorem legible (v : Value) : Legible bytes widths v := by
  induction v using Value.induction with
  | null =>
    intro w rest rest' more more' hbytes hwidths _
    cases w with
    | null => exact ⟨rfl, (List.cons.inj hbytes).2, hwidths⟩
    | _ => exact absurd (List.cons.inj hbytes).1 (by decide)
  | bool b =>
    intro w rest rest' more more' hbytes hwidths _
    cases w with
    | bool c =>
      obtain ⟨hflag, hrest⟩ := List.cons.inj (List.cons.inj hbytes).2
      exact ⟨congrArg bool (flagByte_injective hflag), hrest, hwidths⟩
    | _ => exact absurd (List.cons.inj hbytes).1 (by decide)
  | number n =>
    intro w rest rest' more more' hbytes hwidths hlength
    cases w with
    | number n' =>
      have hlength := Nat.lt_of_succ_lt hlength
      obtain ⟨htext, hrest, hmore⟩ :=
        legible_text (toJson (.number n)) (List.cons.inj hbytes).2 hwidths hlength
      exact ⟨congrArg number (toJson_number_injective htext), hrest, hmore⟩
    | _ => exact absurd (List.cons.inj hbytes).1 (by decide)
  | string s =>
    intro w rest rest' more more' hbytes hwidths hlength
    cases w with
    | string t =>
      have hlength := Nat.lt_of_succ_lt hlength
      obtain ⟨rfl, hrest, hmore⟩ :=
        legible_sized_text s (List.cons.inj hbytes).2 hwidths hlength
      exact ⟨rfl, hrest, hmore⟩
    | _ => exact absurd (List.cons.inj hbytes).1 (by decide)
  | array items ih =>
    intro w rest rest' more more' hbytes hwidths hlength
    cases w with
    | array items' =>
      rw [bytes_array, bytes_array] at hbytes
      rw [bytes_array] at hlength
      rw [widths, widths, widthsOfAll_eq, widthsOfAll_eq] at hwidths
      obtain ⟨rfl, hrest, hmore⟩ := legible_counted bytes_ne_nil ih (List.cons.inj hbytes).2
        hwidths (Nat.lt_of_succ_lt hlength)
      exact ⟨rfl, hrest, hmore⟩
    | _ => exact absurd (List.cons.inj hbytes).1 (by decide)
  | object fields ih =>
    intro w rest rest' more more' hbytes hwidths hlength
    cases w with
    | object fields' =>
      rw [bytes_object, bytes_object] at hbytes
      rw [bytes_object] at hlength
      rw [widths, widths, widthsOfFields_eq, widthsOfFields_eq] at hwidths
      have hfields : ∀ field ∈ fields, Legible fieldBytes fieldWidths field := fun field hfield =>
        (legible_text field.1).prod (ih field hfield)
      obtain ⟨rfl, hrest, hmore⟩ := legible_counted fieldBytes_ne_nil hfields
        (List.cons.inj hbytes).2 hwidths (Nat.lt_of_succ_lt hlength)
      exact ⟨rfl, hrest, hmore⟩
    | _ => exact absurd (List.cons.inj hbytes).1 (by decide)

end Value

/-! ### Contexts -/

/-- The lengths in the name of a constant. -/
def constantWidths (constant : ConstantName × Int64) : List Nat :=
  [constant.1.type.utf8ByteSize, constant.1.member.utf8ByteSize]

/-- The lengths in a parameter. -/
def parameterWidths (parameter : String × Value) : List Nat :=
  [parameter.1.utf8ByteSize] ++ parameter.2.widths

/-- The lengths of names, keys and numerals in a context. -/
def Context.widths (context : Context) : List Nat :=
  context.constants.entries.flatMap constantWidths
    ++ context.parameters.entries.flatMap parameterWidths

theorem legible_parameter (parameter : String × Value) :
    Legible parameterBytes parameterWidths parameter :=
  ((legible_text parameter.1).mark (textBytes "=")).prod parameter.2.legible

theorem legible_int64 (n : Int64) :
    Legible (fun n : Int64 => wordBytes n.toUInt64.toNat) (fun _ => []) n := by
  intro k rest rest' more more' hbytes hmore _
  obtain ⟨heq, hrest⟩ :=
    wordBytes_append_inj n.toUInt64.toNat_lt k.toUInt64.toNat_lt hbytes
  exact ⟨congrArg Int64.ofUInt64 (UInt64.toNat_inj.mp heq), hrest, hmore⟩

theorem legible_constant (constant : ConstantName × Int64) :
    Legible constantBytes constantWidths constant := by
  have hparts : Function.Injective fun c : ConstantName × Int64 => ((c.1.type, c.1.member), c.2) := by
    rintro ⟨⟨type, member⟩, n⟩ ⟨⟨type', member'⟩, n'⟩ h
    simp only [Prod.mk.injEq] at h
    obtain ⟨⟨rfl, rfl⟩, rfl⟩ := h
    rfl
  exact .map hparts ((((legible_text _).mark (textBytes ".")).prod (legible_text _)).prod
    (legible_int64 _))

theorem constantBytes_ne_nil (constant : ConstantName × Int64) : constantBytes constant ≠ [] :=
  List.append_ne_nil_of_right_ne_nil _ (List.cons_ne_nil _ _)

theorem parameterBytes_ne_nil (parameter : String × Value) : parameterBytes parameter ≠ [] :=
  List.append_ne_nil_of_right_ne_nil _ parameter.2.bytes_ne_nil

theorem Context.legible (context : Context) : Legible Context.bytes Context.widths context := by
  have hparts : Function.Injective fun c : Context => (c.constants.entries, c.parameters.entries) := by
    rintro ⟨⟨constants⟩, ⟨parameters⟩⟩ ⟨⟨constants'⟩, ⟨parameters'⟩⟩ h
    simp only [Prod.mk.injEq] at h
    obtain ⟨rfl, rfl⟩ := h
    rfl
  have hbytes : Context.bytes = (fun p => countedBytes constantBytes p.1
      ++ countedBytes parameterBytes p.2) ∘ fun c => (c.constants.entries, c.parameters.entries) := by
    funext c
    simp only [Context.bytes, countedBytes, Function.comp_apply, List.append_assoc]
  rw [hbytes]
  exact .map hparts ((legible_counted constantBytes_ne_nil fun c _ => legible_constant c).prod
    (legible_counted parameterBytes_ne_nil fun p _ => legible_parameter p))

/-! ### Fingerprints -/

/-- What is written for a fingerprint determines the text and the passes, and it determines the
constants and the parameters once the lengths are known that are not written. -/
theorem fingerprintBytes_inj {source source' : String} {context context' : Context}
    {options options' : CompileOptions}
    (h : fingerprintBytes source context options = fingerprintBytes source' context' options')
    (hlength : (fingerprintBytes source context options).length < pow2 64) :
    source = source' ∧ options.simplify = options'.simplify ∧ options.coalesce = options'.coalesce
      ∧ (context.widths = context'.widths → context = context') := by
  obtain ⟨hbytes, hflags⟩ := List.append_inj' h rfl
  obtain ⟨hsimplify, hcoalesce⟩ := List.cons.inj hflags
  obtain ⟨hsource, hcontext⟩ := mark_inj (notMem_textBytes source) (notMem_textBytes source') hbytes
  refine ⟨textBytes_injective hsource, flagByte_injective hsimplify,
    flagByte_injective (List.cons.inj hcoalesce).1, fun hwidths => ?_⟩
  have hlength : (context.bytes ++ []).length < pow2 64 := by
    rw [fingerprintBytes, List.append_assoc, List.length_append, List.length_append,
      List.length_cons] at hlength
    rw [List.append_nil]
    omega
  exact (context.legible (congrArg (· ++ []) hcontext) (congrArg (· ++ []) hwidths) hlength).1

/-- A context with one parameter, an object with a number and null. -/
def numberThenNull (key : String) (n : Int64) (key' : String) : Context :=
  Context.empty.bind "p" (.object [(key, .number (.int n)), (key', .null)])

/-- The last digit of a numeral can just as well be the first character of the next key. -/
theorem fingerprintBytes_shared :
    fingerprintBytes "$.n == $p" (numberThenNull "a" 1 "2b") {}
        = fingerprintBytes "$.n == $p" (numberThenNull "a" 12 "b") {}
      ∧ numberThenNull "a" 1 "2b" ≠ numberThenNull "a" 12 "b" := by
  refine ⟨by decide, fun h => ?_⟩
  cases h

/-- Two contexts with the same bytes: they differ, so the lengths of their keys and numerals must. -/
theorem fingerprintBytes_inj_numberThenNull :
    fingerprintBytes "$.n == $p" (numberThenNull "a" 1 "2b") {}
        = fingerprintBytes "$.n == $p" (numberThenNull "a" 12 "b") {}
      ∧ (fingerprintBytes "$.n == $p" (numberThenNull "a" 1 "2b") {}).length < pow2 64
      ∧ (numberThenNull "a" 1 "2b").widths ≠ (numberThenNull "a" 12 "b").widths := by
  have hbytes : fingerprintBytes "$.n == $p" (numberThenNull "a" 1 "2b") {}
      = fingerprintBytes "$.n == $p" (numberThenNull "a" 12 "b") {} := by decide
  have hlength : (fingerprintBytes "$.n == $p" (numberThenNull "a" 1 "2b") {}).length < pow2 64 := by
    decide
  refine ⟨hbytes, hlength, fun hwidths => ?_⟩
  cases (fingerprintBytes_inj hbytes hlength).2.2.2 hwidths

end DocQuery
