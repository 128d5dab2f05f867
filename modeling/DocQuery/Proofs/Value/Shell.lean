import DocQuery.Proofs.Pipeline.Induction
import DocQuery.Proofs.Value.Atoms
import DocQuery.Value.Order

/-!
# Shell notation is unambiguous

A value can be recovered from its text, on one line and over several.  Both layouts put the entries
of arrays and objects into a frame of brackets, commas and blanks, and differ in the blanks only.
Entries begin with no character of a frame, so it is seen where they begin; that it is seen where
they end is what the induction over the value carries.

## Main definitions

* `Unambiguous` — what is written for something is read in one way only.
* `Blanks`, `Frame` — the blanks around entries, and the brackets with them.
* `IsShellPrinter`, `Encloses` — the printers of the notation, and how each uses another.

## Main results

* `Frame.enclose_append_inj` — entries are recovered from their frame.
* `IsShellPrinter.unambiguous` — a value is told from what follows it.
* `toShell_injective` — **different values have different texts.**
-/

namespace DocQuery

open Text

/-! ### Entries between brackets -/

/-- A blank between the parts of a frame. -/
def isSpacing (c : Char) : Bool :=
  c == ' ' || c == '\n'

/-- A character that can stand where an entry might begin: a blank or a closing bracket. -/
def isAround (c : Char) : Bool :=
  isSpacing c || c == ']' || c == '\x7d'

/-- A character of a kind that has none of those is another one. -/
theorem isAround_eq_false {p : Char → Bool} {c : Char} (hc : p c = true)
    (hp : ∀ d ∈ [' ', '\n', ']', '\x7d'], p d = false) : isAround c = false := by
  by_contra haround
  rw [Bool.not_eq_false] at haround
  have hmem : c ∈ [' ', '\n', ']', '\x7d'] := by
    simpa [isAround, isSpacing, or_assoc] using haround
  rw [hp c hmem] at hc
  cases hc

theorem isSpacing_eq_false_of_isAround {c : Char} (h : isAround c = false) :
    isSpacing c = false := by
  simp only [isAround, Bool.or_eq_false_iff] at h
  exact h.1.1

variable {α : Type} {write : α → List Char}

/-- What is written for `x` is told from what is written for anything else, and from what follows,
as long as that goes on no number. -/
def Unambiguous (write : α → List Char) (x : α) : Prop :=
  ∀ ⦃y : α⦄ ⦃r r' : List Char⦄, Stops isNumeralChar r → Stops isNumeralChar r' →
    write x ++ r = write y ++ r' → x = y ∧ r = r'

/-- The blanks around entries. -/
structure Blanks where
  opening : List Char
  /-- What stands between a comma and the entry behind it. -/
  gap : List Char
  closing : List Char
  opening_spacing : ∀ c ∈ opening, isSpacing c = true
  closing_spacing : ∀ c ∈ closing, isSpacing c = true

/-- The brackets around entries, with the blanks beside them. -/
structure Frame extends Blanks where
  left : Char
  right : Char
  /-- What stands between the brackets if there are no entries. -/
  empty : List Char
  right_eq : right = ']' ∨ right = '\x7d'
  empty_spacing : ∀ c ∈ empty, isSpacing c = true

namespace Frame

variable (frame : Frame)

/-- What follows the first entry, up to the closing bracket and with what is behind it. -/
def tail (write : α → List Char) (xs : List α) (r : List Char) : List Char :=
  xs.flatMap (fun x => ',' :: (frame.gap ++ write x)) ++ (frame.closing ++ frame.right :: r)

/-- The entries in the frame. -/
def enclose (write : α → List Char) : List α → List Char
  | [] => frame.left :: (frame.empty ++ [frame.right])
  | x :: xs => frame.left :: (frame.opening ++ (write x ++ frame.tail write xs []))

theorem enclose_nil_append (write : α → List Char) (r : List Char) :
    frame.enclose write [] ++ r = frame.left :: (frame.empty ++ frame.right :: r) := by
  simp [enclose]

theorem enclose_cons_append (x : α) (xs : List α) (r : List Char) :
    frame.enclose write (x :: xs) ++ r
      = frame.left :: (frame.opening ++ (write x ++ frame.tail write xs r)) := by
  simp [enclose, tail]

theorem tail_cons (x : α) (xs : List α) (r : List Char) :
    frame.tail write (x :: xs) r = ',' :: (frame.gap ++ (write x ++ frame.tail write xs r)) := by
  simp [tail]

/-- Behind the last entry there is a blank or the closing bracket. -/
theorem exists_tail_nil (write : α → List Char) (r : List Char) :
    ∃ c rest, frame.tail write [] r = c :: rest ∧ isAround c = true := by
  cases hclosing : frame.closing with
  | nil =>
    refine ⟨frame.right, r, by simp [tail, hclosing], ?_⟩
    rcases frame.right_eq with h | h <;> rw [h] <;> rfl
  | cons c closing =>
    have hc : isSpacing c = true :=
      frame.closing_spacing c (by rw [hclosing]; exact List.mem_cons_self)
    refine ⟨c, closing ++ frame.right :: r, by simp [tail, hclosing], ?_⟩
    rw [isAround, hc]
    rfl

/-- No number goes on behind an entry. -/
theorem stops_tail (write : α → List Char) (xs : List α) (r : List Char) :
    Stops isNumeralChar (frame.tail write xs r) := by
  cases xs with
  | nil =>
    obtain ⟨c, rest, htail, hc⟩ := frame.exists_tail_nil write r
    rw [htail, stops_cons]
    simp only [isAround, isSpacing, Bool.or_eq_true, beq_iff_eq] at hc
    rcases hc with ((rfl | rfl) | rfl) | rfl <;> decide
  | cons x xs =>
    rw [tail_cons, stops_cons]
    decide

theorem tail_nil_ne_comma (r rest : List Char) : frame.tail write [] r ≠ ',' :: rest := by
  obtain ⟨c, rest', htail, hc⟩ := frame.exists_tail_nil write r
  rw [htail]
  intro h
  rw [(List.cons.inj h).1] at hc
  exact absurd hc (by decide)

theorem tail_inj {xs ys : List α} {r r' : List Char} (hxs : ∀ x ∈ xs, Unambiguous write x)
    (h : frame.tail write xs r = frame.tail write ys r') : xs = ys ∧ r = r' := by
  -- a comma goes on, and nothing that ends the entries is one
  induction xs generalizing ys with
  | nil =>
    cases ys with
    | nil => simpa [tail] using h
    | cons y ys =>
      rw [tail_cons] at h
      exact absurd h (frame.tail_nil_ne_comma _ _)
  | cons x xs ih =>
    cases ys with
    | nil =>
      rw [tail_cons] at h
      exact absurd h.symm (frame.tail_nil_ne_comma _ _)
    | cons y ys =>
      obtain ⟨hx, hxs⟩ := List.forall_mem_cons.mp hxs
      rw [tail_cons, tail_cons] at h
      have hentry := List.append_cancel_left (List.cons.inj h).2
      obtain ⟨rfl, htail⟩ := hx (frame.stops_tail _ _ _) (frame.stops_tail _ _ _) hentry
      obtain ⟨rfl, rfl⟩ := ih hxs htail
      exact ⟨rfl, rfl⟩

/-- No entries are told from some, since entries begin with none of the characters around them. -/
theorem enclose_nil_ne (hstart : ∀ x, ∃ c rest, write x = c :: rest ∧ isAround c = false) (x : α)
    (xs : List α) (r r' : List Char) :
    frame.enclose write [] ++ r ≠ frame.enclose write (x :: xs) ++ r' := by
  obtain ⟨c, rest, hx, hc⟩ := hstart x
  have hright : isSpacing frame.right = false := by
    rcases frame.right_eq with h | h <;> rw [h] <;> rfl
  intro h
  rw [enclose_nil_append, enclose_cons_append, hx] at h
  have hstops : Stops isSpacing (frame.right :: r) := stops_cons.mpr hright
  have hstops' : Stops isSpacing ((c :: rest) ++ frame.tail write xs r') :=
    stops_cons.mpr (isSpacing_eq_false_of_isAround hc)
  -- without the blanks a bracket is left on one side, and the entry on the other
  obtain ⟨-, hrest⟩ := hstops.append_inj hstops' frame.empty_spacing frame.opening_spacing
    (List.cons.inj h).2
  obtain rfl : frame.right = c := (List.cons.inj hrest).1
  rcases frame.right_eq with h | h <;> rw [h] at hc <;> exact absurd hc (by decide)

/-- Entries in a frame are read in one way only if each of them is. -/
theorem enclose_append_inj {xs ys : List α} {r r' : List Char}
    (hstart : ∀ x, ∃ c rest, write x = c :: rest ∧ isAround c = false)
    (hxs : ∀ x ∈ xs, Unambiguous write x)
    (h : frame.enclose write xs ++ r = frame.enclose write ys ++ r') : xs = ys ∧ r = r' := by
  cases xs with
  | nil =>
    cases ys with
    | nil => simpa [enclose] using h
    | cons y ys => exact absurd h (frame.enclose_nil_ne hstart y ys r r')
  | cons x xs =>
    cases ys with
    | nil => exact absurd h.symm (frame.enclose_nil_ne hstart x xs r' r)
    | cons y ys =>
      obtain ⟨hx, hxs⟩ := List.forall_mem_cons.mp hxs
      rw [enclose_cons_append, enclose_cons_append] at h
      have hentry := List.append_cancel_left (List.cons.inj h).2
      obtain ⟨rfl, htail⟩ := hx (frame.stops_tail _ _ _) (frame.stops_tail _ _ _) hentry
      obtain ⟨rfl, rfl⟩ := frame.tail_inj hxs htail
      exact ⟨rfl, rfl⟩

end Frame

/-! ### The two layouts -/

/-- An entry of an object, its value written by the given printer. -/
def writeEntry (write : Value → List Char) (field : String × Value) : List Char :=
  shellDialect.key field.1 ++ ' ' :: ':' :: ' ' :: write field.2

/-- The first printer writes arrays and objects in frames, with the second one inside, and all other
values as they stand on one line. -/
structure Encloses (write inner : Value → List Char) : Prop where
  null : write .null = ['n', 'u', 'l', 'l']
  bool : ∀ b, write (.bool b) = shellDialect.line (.bool b)
  number : ∀ n, write (.number n) = n.print
  string : ∀ s, write (.string s) = shellString s
  array : ∃ frame : Frame, frame.left = '[' ∧
    ∀ items, write (.array items) = frame.enclose inner items
  object : ∃ frame : Frame, frame.left = '\x7b' ∧
    ∀ fields, write (.object fields) = frame.enclose (writeEntry inner) fields

/-- The printers of shell notation. -/
inductive IsShellPrinter : (Value → List Char) → Prop
  | line : IsShellPrinter shellDialect.line
  | lines (level : Nat) : IsShellPrinter (shellDialect.lines level)

theorem lineItems_cons (d : Dialect) (item : Value) (items : List Value) :
    d.lineItems (item :: items)
      = d.line item ++ items.flatMap fun v => d.comma ++ d.line v := by
  induction items generalizing item with
  | nil => simp [Dialect.lineItems]
  | cons next items ih => simp [Dialect.lineItems, ih]

theorem lineFields_cons (d : Dialect) (field : String × Value) (fields : List (String × Value)) :
    d.lineFields (field :: fields)
      = d.key field.1 ++ d.colon ++ d.line field.2
        ++ fields.flatMap fun f => d.comma ++ (d.key f.1 ++ d.colon ++ d.line f.2) := by
  induction fields generalizing field with
  | nil => simp [Dialect.lineFields]
  | cons next fields ih => simp [Dialect.lineFields, ih]

theorem linesItems_cons (d : Dialect) (level : Nat) (item : Value) (items : List Value) :
    d.linesItems level (item :: items)
      = Dialect.indent level ++ d.lines level item
        ++ items.flatMap fun v => [',', '\n'] ++ (Dialect.indent level ++ d.lines level v) := by
  induction items generalizing item with
  | nil => simp [Dialect.linesItems]
  | cons next items ih => simp [Dialect.linesItems, ih]

theorem linesFields_cons (d : Dialect) (level : Nat) (field : String × Value)
    (fields : List (String × Value)) :
    d.linesFields level (field :: fields)
      = Dialect.indent level ++ (d.key field.1 ++ d.colon ++ d.lines level field.2)
        ++ fields.flatMap fun f =>
          [',', '\n'] ++ (Dialect.indent level ++ (d.key f.1 ++ d.colon ++ d.lines level f.2)) := by
  induction fields generalizing field with
  | nil => simp [Dialect.linesFields]
  | cons next fields ih => simp [Dialect.linesFields, ih]

namespace Blanks

/-- Square brackets with these blanks. -/
def array (blanks : Blanks) : Frame where
  toBlanks := blanks
  left := '['
  right := ']'
  empty := []
  right_eq := .inl rfl
  empty_spacing := List.forall_mem_nil _

/-- Braces with these blanks. -/
def object (blanks : Blanks) : Frame where
  toBlanks := blanks
  left := '\x7b'
  right := '\x7d'
  empty := [' ']
  right_eq := .inr rfl
  empty_spacing := List.forall_mem_singleton.mpr rfl

/-- A space behind each comma. -/
def behindCommas : Blanks where
  opening := []
  gap := [' ']
  closing := []
  opening_spacing := List.forall_mem_nil _
  closing_spacing := List.forall_mem_nil _

/-- A space on both sides of each entry. -/
def spaces : Blanks where
  opening := [' ']
  gap := [' ']
  closing := [' ']
  opening_spacing := List.forall_mem_singleton.mpr rfl
  closing_spacing := List.forall_mem_singleton.mpr rfl

theorem isSpacing_of_mem_newLine (level : Nat) :
    ∀ c ∈ '\n' :: Dialect.indent level, isSpacing c = true := by
  refine List.forall_mem_cons.mpr ⟨rfl, fun c hc => ?_⟩
  rw [List.eq_of_mem_replicate hc]
  rfl

/-- A new line for each entry, and one for the closing bracket. -/
def newLines (level : Nat) : Blanks where
  opening := '\n' :: Dialect.indent (level + 1)
  gap := '\n' :: Dialect.indent (level + 1)
  closing := '\n' :: Dialect.indent level
  opening_spacing := isSpacing_of_mem_newLine (level + 1)
  closing_spacing := isSpacing_of_mem_newLine level

end Blanks

theorem encloses_line : Encloses shellDialect.line shellDialect.line where
  null := by simp [Dialect.line]
  bool _ := rfl
  number _ := by simp [Dialect.line]
  string _ := by simp [Dialect.line, shellDialect]
  array := by
    refine ⟨Blanks.behindCommas.array, rfl, fun items => ?_⟩
    cases items with
    | nil => simp [Dialect.line, Dialect.lineItems, Frame.enclose, Blanks.array]
    | cons item items =>
      simp [Dialect.line, lineItems_cons, Frame.enclose, Frame.tail, Blanks.array,
        Blanks.behindCommas, shellDialect]
  object := by
    refine ⟨Blanks.spaces.object, rfl, fun fields => ?_⟩
    cases fields with
    | nil => simp [Dialect.line, Frame.enclose, Blanks.object, shellDialect]
    | cons field fields =>
      simp [Dialect.line, lineFields_cons, Frame.enclose, Frame.tail, Blanks.object, Blanks.spaces,
        writeEntry, shellDialect]

theorem encloses_lines (level : Nat) :
    Encloses (shellDialect.lines level) (shellDialect.lines (level + 1)) where
  null := by simp [Dialect.lines, Dialect.line]
  bool _ := by simp [Dialect.lines]
  number _ := by simp [Dialect.lines, Dialect.line]
  string _ := by simp [Dialect.lines, Dialect.line, shellDialect]
  array := by
    refine ⟨(Blanks.newLines level).array, rfl, fun items => ?_⟩
    cases items with
    | nil => simp [Dialect.lines, Frame.enclose, Blanks.array]
    | cons item items =>
      simp [Dialect.lines, linesItems_cons, Frame.enclose, Frame.tail, Blanks.array,
        Blanks.newLines]
  object := by
    refine ⟨(Blanks.newLines level).object, rfl, fun fields => ?_⟩
    cases fields with
    | nil => simp [Dialect.lines, Frame.enclose, Blanks.object, shellDialect]
    | cons field fields =>
      simp [Dialect.lines, linesFields_cons, Frame.enclose, Frame.tail, Blanks.object,
        Blanks.newLines, writeEntry, shellDialect]

theorem IsShellPrinter.exists_encloses {write : Value → List Char} (h : IsShellPrinter write) :
    ∃ inner, IsShellPrinter inner ∧ Encloses write inner := by
  cases h with
  | line => exact ⟨_, .line, encloses_line⟩
  | lines level => exact ⟨_, .lines (level + 1), encloses_lines level⟩

/-! ### Values -/

/-- The place of a value's type in the order of types, read off the first character. -/
def leadBracket (c : Char) : Nat :=
  match c with
  | 'n' => 1
  | '"' => 3
  | '\x7b' => 4
  | '[' => 5
  | 't' | 'f' => 8
  | _ => 2

/-- A number begins neither like another value nor like what stands around entries. -/
theorem leadBracket_of_isNumeralChar {c : Char} (h : isNumeralChar c = true) :
    leadBracket c = 2 ∧ isAround c = false := by
  refine ⟨?_, isAround_eq_false h (by simp [isNumeralChar])⟩
  unfold leadBracket
  split <;> first | rfl | exact absurd h (by decide)

/-- The first character of a value tells its type, and that an entry begins. -/
theorem Encloses.exists_lead {write inner : Value → List Char} (h : Encloses write inner)
    (v : Value) :
    ∃ c rest, write v = c :: rest ∧ leadBracket c = v.bracket ∧ isAround c = false := by
  cases v with
  | null => exact ⟨_, _, h.null, rfl, rfl⟩
  | bool b =>
    rw [h.bool]
    cases b
    · exact ⟨_, _, rfl, rfl, rfl⟩
    · exact ⟨_, _, rfl, rfl, rfl⟩
  | number n =>
    obtain ⟨c, rest, hprint⟩ := List.exists_cons_of_ne_nil n.print_ne_nil
    have hc := n.forall_numeralChar_print c (by rw [hprint]; exact List.mem_cons_self)
    exact ⟨c, rest, (h.number n).trans hprint, leadBracket_of_isNumeralChar hc⟩
  | string s => exact ⟨_, _, h.string s, rfl, rfl⟩
  | array items =>
    obtain ⟨frame, hleft, harray⟩ := h.array
    rw [harray]
    cases items <;> exact ⟨_, _, congrArg (· :: _) hleft, rfl, rfl⟩
  | object fields =>
    obtain ⟨frame, hleft, hobject⟩ := h.object
    rw [hobject]
    cases fields <;> exact ⟨_, _, congrArg (· :: _) hleft, rfl, rfl⟩

theorem exists_start_writeEntry (write : Value → List Char) (field : String × Value) :
    ∃ c rest, writeEntry write field = c :: rest ∧ isAround c = false := by
  rw [writeEntry]
  simp only [shellDialect]
  split
  · next hbare =>
    obtain ⟨hne, hchars⟩ := isBareKey_iff.mp hbare
    obtain ⟨c, rest, hkey⟩ := List.exists_cons_of_ne_nil hne
    have hc := hchars c (by rw [hkey]; exact List.mem_cons_self)
    rw [hkey]
    exact ⟨c, _, rfl, isAround_eq_false hc (by simp [isBareKeyChar])⟩
  · exact ⟨'"', _, rfl, rfl⟩

/-- An entry is read in one way if its value is. -/
theorem Unambiguous.writeEntry {write : Value → List Char} {field : String × Value}
    (h : Unambiguous write field.2) : Unambiguous (writeEntry write) field := by
  intro other r r' hr hr' heq
  simp only [DocQuery.writeEntry, List.append_assoc, List.cons_append] at heq
  obtain ⟨hkey, hrest⟩ := shellKey_append_inj heq
  have hvalue := (List.cons.inj (List.cons.inj hrest).2).2
  obtain ⟨hv, rfl⟩ := h hr hr' hvalue
  exact ⟨Prod.ext hkey hv, rfl⟩

/-- Values of different types do not begin with the same character. -/
theorem Encloses.bracket_eq {write inner : Value → List Char} (h : Encloses write inner)
    {v w : Value} {r r' : List Char} (heq : write v ++ r = write w ++ r') :
    v.bracket = w.bracket := by
  obtain ⟨c, rest, hv, hlead, -⟩ := h.exists_lead v
  obtain ⟨d, rest', hw, hlead', -⟩ := h.exists_lead w
  rw [hv, hw] at heq
  rw [← hlead, ← hlead', (List.cons.inj heq).1]

namespace Encloses

variable {write inner : Value → List Char} (h : Encloses write inner)

include h

theorem unambiguous_null : Unambiguous write .null := by
  intro w r r' _ _ heq
  have hbracket := h.bracket_eq heq
  cases w with
  | null => exact ⟨rfl, List.append_cancel_left heq⟩
  | _ => simp [Value.bracket] at hbracket

theorem unambiguous_bool (b : Bool) : Unambiguous write (.bool b) := by
  intro w r r' _ _ heq
  have hbracket := h.bracket_eq heq
  cases w with
  | bool b' =>
    rw [h.bool, h.bool] at heq
    cases b <;> cases b'
    · exact ⟨rfl, List.append_cancel_left heq⟩
    · exact absurd (List.cons.inj heq).1 (by decide)
    · exact absurd (List.cons.inj heq).1 (by decide)
    · exact ⟨rfl, List.append_cancel_left heq⟩
  | _ => simp [Value.bracket] at hbracket

theorem unambiguous_number (n : Number) : Unambiguous write (.number n) := by
  intro w r r' hr hr' heq
  have hbracket := h.bracket_eq heq
  cases w with
  | number m =>
    rw [h.number, h.number] at heq
    obtain ⟨rfl, hrest⟩ := Number.print_append_inj hr hr' heq
    exact ⟨rfl, hrest⟩
  | _ => simp [Value.bracket] at hbracket

theorem unambiguous_string (s : String) : Unambiguous write (.string s) := by
  intro w r r' _ _ heq
  have hbracket := h.bracket_eq heq
  cases w with
  | string t =>
    rw [h.string, h.string] at heq
    obtain ⟨rfl, hrest⟩ := shellString_append_inj heq
    exact ⟨rfl, hrest⟩
  | _ => simp [Value.bracket] at hbracket

theorem unambiguous_array {items : List Value}
    (hstart : ∀ v, ∃ c rest, inner v = c :: rest ∧ isAround c = false)
    (hitems : ∀ v ∈ items, Unambiguous inner v) : Unambiguous write (.array items) := by
  intro w r r' _ _ heq
  have hbracket := h.bracket_eq heq
  obtain ⟨frame, -, harray⟩ := h.array
  cases w with
  | array others =>
    rw [harray, harray] at heq
    obtain ⟨rfl, hrest⟩ := frame.enclose_append_inj hstart hitems heq
    exact ⟨rfl, hrest⟩
  | _ => simp [Value.bracket] at hbracket

theorem unambiguous_object {fields : List (String × Value)}
    (hfields : ∀ field ∈ fields, Unambiguous inner field.2) :
    Unambiguous write (.object fields) := by
  intro w r r' _ _ heq
  have hbracket := h.bracket_eq heq
  obtain ⟨frame, -, hobject⟩ := h.object
  cases w with
  | object others =>
    rw [hobject, hobject] at heq
    obtain ⟨rfl, hrest⟩ := frame.enclose_append_inj (exists_start_writeEntry inner)
      (fun field hfield => (hfields field hfield).writeEntry) heq
    exact ⟨rfl, hrest⟩
  | _ => simp [Value.bracket] at hbracket

end Encloses

/-- **A value in shell notation is read in one way only.**  By induction on the value: the parts of
an array or object are written by a printer of the notation again. -/
theorem IsShellPrinter.unambiguous (v : Value) :
    ∀ write, IsShellPrinter write → Unambiguous write v := by
  induction v using Value.induction <;> intro write hwrite <;>
    obtain ⟨inner, hinner, h⟩ := hwrite.exists_encloses
  case null => exact h.unambiguous_null
  case bool b => exact h.unambiguous_bool b
  case number n => exact h.unambiguous_number n
  case string s => exact h.unambiguous_string s
  case array items ih =>
    obtain ⟨_, -, hinside⟩ := hinner.exists_encloses
    refine h.unambiguous_array (fun v => ?_) fun v hv => ih v hv inner hinner
    obtain ⟨c, rest, hv, -, hc⟩ := hinside.exists_lead v
    exact ⟨c, rest, hv, hc⟩
  case object fields ih =>
    exact h.unambiguous_object fun field hfield => ih field hfield inner hinner

/-- **Shell notation is unambiguous**, on one line and over several. -/
theorem toShell_injective : Function.Injective toShell ∧ Function.Injective toShellLines := by
  have hinjective {write : Value → List Char} (hwrite : IsShellPrinter write) :
      Function.Injective fun v => String.ofList (write v) := by
    intro v w h
    have heq : write v ++ [] = write w ++ [] := by
      rw [List.append_nil, List.append_nil]
      exact String.ofList_injective h
    exact (hwrite.unambiguous v write (stops_nil _) (stops_nil _) heq).1
  exact ⟨hinjective .line, hinjective (.lines 0)⟩

/-- A string with quotes and a comma in it is told from two strings. -/
theorem toShell_injective_comma :
    toShell (.array [.string "a\", \"b"]) ≠ toShell (.array [.string "a", .string "b"]) ∧
      toShellLines (.array [.string "a\", \"b"])
        ≠ toShellLines (.array [.string "a", .string "b"]) := by
  have hne : Value.array [.string "a\", \"b"] ≠ .array [.string "a", .string "b"] := by simp
  exact ⟨fun h => hne (toShell_injective.1 h), fun h => hne (toShell_injective.2 h)⟩

end DocQuery
