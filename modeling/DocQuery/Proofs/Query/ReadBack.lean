import DocQuery.Proofs.Number.Integer
import DocQuery.Proofs.Number.Print
import DocQuery.Proofs.Query.Text

/-!
# Printed expressions read back

An expression is printed with parentheses around every binary operation and with brackets around
every key that is no name, so the parser finds it again in its text.  The text is followed in two
steps: no token in it runs into the one behind, and the tokens are derived as the expression.

Some expressions are printed like others and do not read back: a number below zero like a sign in
front of one above, a name that is a keyword like the keyword, and a key of an operation like an
operation on something with a key.

## Main definitions

* `Expr.tokens` — the tokens in which an expression is printed.
* `Expr.Readable` — the expressions that read back.
* `Ends`, `Writes` — texts that go on no token, and texts that write tokens in front of such.

## Main results

* `Expr.Readable.writes` — the text of an expression writes its tokens.
* `Expr.Readable.derives` — its tokens are derived as the expression.
* `Expr.parse_print` — **printing an expression and parsing the text gives the expression.**
-/

namespace DocQuery

open Text

/-! ### Names and texts -/

/-- The text is a name that is no keyword. -/
def IsIdentifier (name : String) : Prop :=
  isName name = true ∧ Cursor.word name = .identifier name

/-- All characters of the text are printable and in ASCII. -/
def IsPlainText (s : String) : Prop :=
  ∀ c ∈ s.toList, 0x20 ≤ c.toNat ∧ c.toNat ≤ 0x7E

/-- The text can be a key: it is no keyword, and plain unless it is a name. -/
def IsKeyName (name : String) : Prop :=
  if isName name then Cursor.word name = .identifier name else IsPlainText name

instance (name : String) : Decidable (IsIdentifier name) :=
  inferInstanceAs (Decidable (_ ∧ _))

instance (s : String) : Decidable (IsPlainText s) :=
  List.decidableBAll _ s.toList

instance (name : String) : Decidable (IsKeyName name) :=
  inferInstanceAs (Decidable (if isName name then _ else _))

/-! ### The tokens of an expression -/

namespace BinaryOperator

/-- The token that writes an operator. -/
def token : BinaryOperator → Token
  | .equal => .eqEq
  | .notEqual => .notEq
  | .less => .lt
  | .greater => .gt
  | .lessEqual => .ltEq
  | .greaterEqual => .gtEq
  | .add => .plus
  | .subtract => .minus
  | .multiply => .star
  | .divide => .slash
  | .modulo => .percent
  | .bitAnd => .ampersand
  | .bitOr => .bar
  | .and => .and
  | .or => .or
  | .coalesce => .questionQuestion

/-- The level of an operator. -/
def level : BinaryOperator → Level
  | .equal | .notEqual | .less | .greater | .lessEqual | .greaterEqual => .comparison
  | .add | .subtract => .sum
  | .multiply | .divide | .modulo => .product
  | .bitAnd => .bitAnd
  | .bitOr => .bitOr
  | .and => .and
  | .or => .or
  | .coalesce => .coalesce

theorem operator?_token (op : BinaryOperator) : op.level.operator? op.token = some op := by
  cases op <;> rfl

end BinaryOperator

/-- The token that writes an operator in front of an operand. -/
def UnaryOperator.token : UnaryOperator → Token
  | .not => .not
  | .negate => .minus

namespace Expr

/-- The tokens of a key after its object. -/
def keyTokens (index : Expr) (printed : List Token) : List Token :=
  match index with
  | .key name =>
    if isName name then [.dot, .identifier name] else [.lBracket, .string name, .rBracket]
  | _ => .lBracket :: (printed ++ [.rBracket])

mutual

/-- The tokens in which an expression is printed. -/
def tokens : Expr → List Token
  | .float x => [.float x]
  | .integer n => [.integer n]
  | .string s => [.string s]
  | .boolean b => [.boolean b]
  | .null => [.null]
  | .root => [.dollar]
  | .element => [.at]
  | .param name => [.param name]
  | .constant type member => [.identifier type, .dot, .identifier member]
  | .key name => [.identifier name]
  | .access base index => base.tokens ++ keyTokens index index.tokens
  | .filter condition => .question :: .lParen :: (condition.tokens ++ [.rParen])
  | .unary op operand => op.token :: operand.tokens
  | .binary op left right =>
    .lParen :: (left.tokens ++ op.token :: right.tokens ++ [.rParen])
  | .call base method args =>
    base.tokens ++ .dot :: .identifier method :: .lParen :: (listTokens args ++ [.rParen])
  | .object fields => .lBrace :: (fieldTokens fields ++ [.rBrace])
  | .array elements => .lBracket :: (listTokens elements ++ [.rBracket])

/-- Expressions with commas between them. -/
def listTokens : List Expr → List Token
  | [] => []
  | [e] => e.tokens
  | e :: es => e.tokens ++ .comma :: listTokens es

/-- Entries of an object with commas between them. -/
def fieldTokens : List (String × Expr) → List Token
  | [] => []
  | [(name, e)] => .string name :: .colon :: e.tokens
  | (name, e) :: fields => .string name :: .colon :: e.tokens ++ .comma :: fieldTokens fields

end

/-! ### Expressions that read back -/

/-- The expression is an operator in front of an operand. -/
def isUnary : Expr → Bool
  | .unary _ _ => true
  | _ => false

/-- The expression is an integer. -/
def isInteger : Expr → Bool
  | .integer _ => true
  | _ => false

/-- Expressions that read back: numbers have no sign, names are no keywords, texts are plain, and no
operator stands in front of an object of keys or of a call.  A key that is computed does not begin
with what could be the key by itself. -/
inductive Readable : Expr → Prop
  | integer {n : Int64} (nonneg : 0 ≤ n.toInt) : Readable (.integer n)
  | string {s : String} (plain : IsPlainText s) : Readable (.string s)
  | boolean (b : Bool) : Readable (.boolean b)
  | null : Readable .null
  | root : Readable .root
  | element : Readable .element
  | param {name : String} (isName : isName name = true) : Readable (.param name)
  | constant {type member : String} (type_name : IsIdentifier type)
      (member_name : IsIdentifier member) : Readable (.constant type member)
  | field {object : Expr} {name : String} (base : Readable object)
      (notUnary : object.isUnary = false) (key : IsKeyName name) :
      Readable (.access object (.key name))
  | index {object key : Expr} (base : Readable object) (notUnary : object.isUnary = false)
      (computed : Readable key) (notName : key.tokens.head?.bind Token.keyName? = none) :
      Readable (.access object key)
  | not {operand : Expr} (inner : Readable operand) : Readable (.unary .not operand)
  | negate {operand : Expr} (inner : Readable operand) (notInteger : operand.isInteger = false) :
      Readable (.unary .negate operand)
  | binary {op : BinaryOperator} {left right : Expr} (first : Readable left)
      (second : Readable right) : Readable (.binary op left right)
  | call {object : Expr} {method : String} {args : List Expr} (base : Readable object)
      (notUnary : object.isUnary = false) (method_name : IsIdentifier method)
      (arg : ∀ e ∈ args, Readable e) : Readable (.call object method args)
  | object {fields : List (String × Expr)} (plain : ∀ f ∈ fields, IsPlainText f.1)
      (value : ∀ f ∈ fields, Readable f.2) : Readable (.object fields)
  | array {elements : List Expr} (part : ∀ e ∈ elements, Readable e) :
      Readable (.array elements)

end Expr

/-! ### Where tokens end -/

/-- The characters go on no name and no number. -/
structure Ends (next : List Char) : Prop where
  name : Stops isNamePart next
  point : NoFraction next

theorem ends_nil : Ends [] :=
  ⟨stops_nil _, nofun⟩

/-- A character that is in no name ends a token, apart from a point. -/
theorem ends_cons {c : Char} {next : List Char} (h : isNamePart c = false) (hpoint : c ≠ '.') :
    Ends (c :: next) := by
  refine ⟨stops_cons.mpr h, fun d more heq => ?_⟩
  exact absurd (List.cons.inj heq).1 hpoint

/-- So does a point in front of a name. -/
theorem ends_point {name next : List Char} (h : isNameChars name = true) :
    Ends ('.' :: (name ++ next)) := by
  refine ⟨stops_cons.mpr (by decide), fun d more heq => ?_⟩
  obtain ⟨c, rest, rfl, hstart⟩ := Cursor.exists_cons_of_isNameChars h
  obtain rfl : c = d := (List.cons.inj (List.cons.inj heq).2).1
  by_contra hdigit
  rw [isNameStart_of_isDigit (Bool.not_eq_false _ ▸ hdigit)] at hstart
  cases hstart

theorem stops_isNameStart {next : List Char} (h : Stops isNamePart next) :
    Stops isNameStart next := by
  intro c hc
  by_contra hstart
  have hpart := Cursor.isNamePart_of_isNameStart (Bool.not_eq_false _ ▸ hstart)
  rw [h c hc] at hpart
  cases hpart

theorem stops_isDigit {next : List Char} (h : Stops isNamePart next) :
    Stops Char.isDigit next := by
  intro c hc
  by_contra hdigit
  have hpart := isNamePart_of_isDigit (Bool.not_eq_false _ ▸ hdigit)
  rw [h c hc] at hpart
  cases hpart

/-! ### Texts in front of texts -/

namespace Lexed

variable {w next : List Char} {token : Token} {ts : List Token}

theorem spelled (h : Spelled token w next) (hnext : Lexed next ts) :
    Lexed (w ++ next) (token :: ts) := by
  have hcons : Lexed ([] ++ (w ++ next)) (token :: ts) := .cons (List.forall_mem_nil _) h hnext
  exact hcons

theorem blank (hnext : Lexed next ts) : Lexed (' ' :: next) ts := by
  have hblank : ∀ b ∈ [' '], isBlank b = true := List.forall_mem_singleton.mpr (by decide)
  exact (lexed_blanks_append_iff hblank).mpr hnext

/-- A sign that no other can follow to make a longer one. -/
theorem sign {a : Char} (h : Cursor.single? a = some token) (halone : ∀ b, Cursor.pair? a b = none)
    (hnext : Lexed next ts) : Lexed (a :: next) (token :: ts) :=
  spelled (w := [a]) (.single h fun b _ => halone b) hnext

end Lexed

/-- The characters write the tokens in front of any text that goes on no token. -/
def Writes (cs : List Char) (ts : List Token) : Prop :=
  ∀ next more, Ends next → Lexed next more → Lexed (cs ++ next) (ts ++ more)

theorem Writes.lexed {cs next : List Char} {ts more : List Token} (h : Writes cs ts)
    (hnext : Ends next) (hmore : Lexed next more) : Lexed (cs ++ next) (ts ++ more) :=
  h next more hnext hmore

theorem writes_spelled {token : Token} {w : List Char}
    (h : ∀ next, Ends next → Spelled token w next) : Writes w [token] :=
  fun next _ hnext hmore => .spelled (h next hnext) hmore

/-! ### Words, numbers and strings -/

theorem writes_identifier {name : String} (h : IsIdentifier name) :
    Writes name.toList [.identifier name] := by
  refine writes_spelled fun next hnext => ?_
  have hspelled : Spelled (Cursor.word (String.ofList name.toList)) name.toList next :=
    .word h.1 hnext.name
  rwa [String.ofList_toList, h.2] at hspelled

theorem writes_word {name : String} {token : Token} (hname : isName name = true)
    (htoken : Cursor.word name = token) : Writes name.toList [token] := by
  refine writes_spelled fun next hnext => ?_
  have hspelled : Spelled (Cursor.word (String.ofList name.toList)) name.toList next :=
    .word hname hnext.name
  rwa [String.ofList_toList, htoken] at hspelled

theorem writes_param {name : String} (h : isName name = true) :
    Writes ('$' :: name.toList) [.param name] := by
  refine writes_spelled fun next hnext => ?_
  have hspelled : Spelled (.param (String.ofList name.toList)) ('$' :: name.toList) next :=
    .param h hnext.name
  rwa [String.ofList_toList] at hspelled

theorem writes_integer {n : Int64} (h : 0 ≤ n.toInt) :
    Writes (toString n.toInt).toList [.integer n] := by
  have hdigits : (toString n.toInt).toList = Nat.toDigits 10 n.toInt.natAbs := by
    rw [toList_toString_int, integerText, if_neg (Int.not_lt.mpr h), List.nil_append]
  rw [hdigits]
  refine writes_spelled fun next hnext => .integer Nat.toDigits_ne_nil (isDigit_toDigits _)
    (stops_isDigit hnext.name) hnext.point ?_
  rw [appendDigits_toDigits, Int.natAbs_of_nonneg h]
  exact signed64?_toInt n

/-- No character of ASCII is drawn on the one before it. -/
theorem isExtender_of_ascii {c : Char} (h : c.toNat ≤ 0x7E) : isExtender c = false := by
  have habove : ∀ ranges ∈ [nonspacingMarkRanges, enclosingMarkRanges, otherExtenderRanges],
      ranges.all (fun r => 0x7E < r.1) = true := by decide +kernel
  have hhas : ∀ ranges ∈ [nonspacingMarkRanges, enclosingMarkRanges, otherExtenderRanges],
      ranges.has c = false := by
    intro ranges hranges
    by_contra hhas
    obtain ⟨r, hr, hfirst, -⟩ := Ranges.has_iff.mp (Bool.not_eq_false _ ▸ hhas)
    have hlt := of_decide_eq_true (List.all_eq_true.mp (habove ranges hranges) r hr)
    omega
  simp only [List.forall_mem_cons] at hhas
  obtain ⟨hnonspacing, henclosing, hother, -⟩ := hhas
  rw [isExtender, Category.has, Category.has, Category.ranges, Category.ranges, hnonspacing,
    henclosing, hother]
  rfl

/-- Every other printable character of ASCII stands for itself. -/
theorem escaped_of_ascii {c : Char} (hlow : 0x20 ≤ c.toNat) (hhigh : c.toNat ≤ 0x7E)
    (hquote : c ≠ '"') (hbackslash : c ≠ '\\') : escaped c = [c] := by
  have hprintable : isPrintable c = true := by
    rw [isPrintable, if_pos (by omega), Bool.and_eq_true, decide_eq_true_eq, bne_iff_ne]
    exact ⟨hlow, by omega⟩
  unfold escaped
  split
  case h_7 => rw [isExtender_of_ascii hhigh, hprintable, if_neg (by decide)]
  all_goals first | exact absurd hlow (by decide) | exact absurd rfl ‹_›

/-- Plain text is quoted with a backslash in front of quotes and backslashes. -/
theorem content_escaped {chars : List Char} (h : ∀ c ∈ chars, 0x20 ≤ c.toNat ∧ c.toNat ≤ 0x7E) :
    Content '"' (chars.flatMap escaped) chars := by
  induction chars with
  | nil => exact .nil
  | cons c chars ih =>
    obtain ⟨⟨hlow, hhigh⟩, hchars⟩ := List.forall_mem_cons.mp h
    have hcontent := ih hchars
    rw [List.flatMap_cons]
    by_cases hquote : c = '"'
    · subst hquote
      exact .escaped rfl hcontent
    · by_cases hbackslash : c = '\\'
      · subst hbackslash
        exact .escaped rfl hcontent
      · rw [escaped_of_ascii hlow hhigh hquote hbackslash]
        exact .plain hquote hbackslash hcontent

theorem writes_quoted {s : String} (h : IsPlainText s) :
    Writes (quoted s).toList [.string s] := by
  refine writes_spelled fun next _ => ?_
  have hspelled : Spelled (.string (String.ofList s.toList))
      ('"' :: (s.toList.flatMap escaped ++ ['"'])) next := .string (.inl rfl) (content_escaped h)
  rw [quoted, String.toList_ofList, List.cons_append]
  rwa [String.ofList_toList] at hspelled

/-- An operator is written with a blank behind it. -/
theorem spelled_operator (op : BinaryOperator) (next : List Char) :
    Spelled op.token op.symbol.toList (' ' :: next) := by
  have hblank : Stops isNamePart (' ' :: next) := stops_cons.mpr (by decide)
  have hand : isNameChars "and".toList = true := by decide
  have hor : isNameChars "or".toList = true := by decide
  cases op with
  | and => exact .word hand hblank
  | or => exact .word hor hblank
  | equal | notEqual | lessEqual | greaterEqual | coalesce => exact .pair rfl
  | _ =>
    refine .single rfl fun b hb => ?_
    cases hb
    rfl

/-! ### The text of an expression -/

/-- Characters that are brackets, with their tokens. -/
inductive Brackets : Char → Char → Token → Token → Prop
  | parentheses : Brackets '(' ')' .lParen .rParen
  | square : Brackets '[' ']' .lBracket .rBracket
  | braces : Brackets '\x7b' '\x7d' .lBrace .rBrace

/-- What is written between brackets. -/
theorem Writes.between {a b : Char} {opening closing : Token} {cs next : List Char}
    {ts more : List Token} (h : Writes cs ts) (hbrackets : Brackets a b opening closing)
    (hmore : Lexed next more) :
    Lexed (a :: (cs ++ b :: next)) (opening :: (ts ++ closing :: more)) := by
  cases hbrackets
  all_goals
    refine .sign rfl (fun _ => rfl) (h.lexed (ends_cons (by decide) (by decide)) ?_)
    exact .sign rfl (fun _ => rfl) hmore

theorem writes_listChars {es : List Expr} (h : ∀ e ∈ es, Writes e.chars e.tokens) :
    Writes (Expr.listChars es) (Expr.listTokens es) := by
  induction es with
  | nil => exact fun _ _ _ hmore => hmore
  | cons e es ih =>
    obtain ⟨he, hes⟩ := List.forall_mem_cons.mp h
    cases es with
    | nil => exact he
    | cons e' es =>
      intro next more hnext hmore
      have hrest := (ih hes).lexed hnext hmore
      have hcomma : Lexed (',' :: ' ' :: (Expr.listChars (e' :: es) ++ next))
          (.comma :: (Expr.listTokens (e' :: es) ++ more)) := .sign rfl (fun _ => rfl) hrest.blank
      have hall := he.lexed (ends_cons (by decide) (by decide)) hcomma
      simpa only [Expr.listChars, Expr.listTokens, List.append_assoc, List.cons_append,
        List.nil_append] using hall

/-- An entry of an object. -/
theorem writes_field {name : String} {e : Expr} (hname : IsPlainText name)
    (he : Writes e.chars e.tokens) :
    Writes ((quoted name).toList ++ [':', ' '] ++ e.chars)
      (.string name :: .colon :: e.tokens) := by
  intro next more hnext hmore
  have hblank : Lexed (' ' :: (e.chars ++ next)) (e.tokens ++ more) :=
    (he.lexed hnext hmore).blank
  have hcolon : Lexed (':' :: ' ' :: (e.chars ++ next)) (.colon :: (e.tokens ++ more)) := by
    refine .spelled (w := [':']) (.single rfl fun b hb => ?_) hblank
    cases hb
    rfl
  have hall := (writes_quoted hname).lexed (ends_cons (by decide) (by decide)) hcolon
  simpa only [List.append_assoc, List.cons_append, List.nil_append] using hall

theorem writes_fieldChars {fields : List (String × Expr)} (hplain : ∀ f ∈ fields, IsPlainText f.1)
    (h : ∀ f ∈ fields, Writes f.2.chars f.2.tokens) :
    Writes (Expr.fieldChars fields) (Expr.fieldTokens fields) := by
  induction fields with
  | nil => exact fun _ _ _ hmore => hmore
  | cons field fields ih =>
    obtain ⟨hname, hnames⟩ := List.forall_mem_cons.mp hplain
    obtain ⟨hvalue, hvalues⟩ := List.forall_mem_cons.mp h
    obtain ⟨name, e⟩ := field
    have hfield := writes_field hname hvalue
    cases fields with
    | nil => exact hfield
    | cons field' fields =>
      intro next more hnext hmore
      have hrest := (ih hnames hvalues).lexed hnext hmore
      have hcomma : Lexed (',' :: ' ' :: (Expr.fieldChars (field' :: fields) ++ next))
          (.comma :: (Expr.fieldTokens (field' :: fields) ++ more)) :=
        .sign rfl (fun _ => rfl) hrest.blank
      have hall := hfield.lexed (ends_cons (by decide) (by decide)) hcomma
      simpa only [Expr.fieldChars, Expr.fieldTokens, List.append_assoc, List.cons_append,
        List.nil_append] using hall

/-- A point and a name behind an object. -/
theorem lexed_member {cs next : List Char} {ts more : List Token} {name : String}
    (h : Writes cs ts) (hname : IsIdentifier name) (hnext : Ends next) (hmore : Lexed next more) :
    Lexed (cs ++ '.' :: (name.toList ++ next)) (ts ++ .dot :: .identifier name :: more) := by
  have hidentifier : Lexed (name.toList ++ next) (.identifier name :: more) :=
    (writes_identifier hname).lexed hnext hmore
  exact h.lexed (ends_point hname.1) (.sign rfl (fun _ => rfl) hidentifier)

namespace Expr

theorem accessKey_of_readable {key : Expr} (h : Readable key) (printed : List Char)
    (printedTokens : List Token) :
    accessKey key printed = '[' :: (printed ++ [']'])
      ∧ keyTokens key printedTokens = .lBracket :: (printedTokens ++ [.rBracket]) := by
  cases h <;> exact ⟨rfl, rfl⟩

/-- The text of an expression writes its tokens. -/
theorem Readable.writes {e : Expr} (h : Readable e) : Writes e.chars e.tokens := by
  induction h with
  | integer hn => exact writes_integer hn
  | string hs => exact writes_quoted hs
  | boolean b => cases b <;> exact writes_word (by decide) rfl
  | null => exact writes_word (by decide) rfl
  | root => exact writes_spelled fun next hnext => .dollar (stops_isNameStart hnext.name)
  | element => exact fun next more _ hmore => .sign rfl (fun _ => rfl) hmore
  | param hname => exact writes_param hname
  | constant htype hmember =>
    intro next more hnext hmore
    have hall := lexed_member (writes_identifier htype) hmember hnext hmore
    simpa only [chars, tokens, List.append_assoc, List.cons_append, List.nil_append] using hall
  | @field object name _ _ hkey ih =>
    intro next more hnext hmore
    rw [IsKeyName] at hkey
    by_cases hname : isName name = true
    · rw [if_pos hname] at hkey
      have hall := lexed_member ih ⟨hname, hkey⟩ hnext hmore
      simpa only [chars, tokens, accessKey, keyTokens, if_pos hname, List.append_assoc,
        List.cons_append, List.nil_append] using hall
    · rw [if_neg hname] at hkey
      have hbrackets := (writes_quoted hkey).between .square hmore
      have hall := ih.lexed (ends_cons (by decide) (by decide)) hbrackets
      simpa only [chars, tokens, accessKey, keyTokens, if_neg hname, List.append_assoc,
        List.cons_append, List.nil_append] using hall
  | @index object key _ _ hkey _ ih ihkey =>
    intro next more hnext hmore
    obtain ⟨hchars, htokens⟩ := accessKey_of_readable hkey key.chars key.tokens
    have hbrackets := ihkey.between .square hmore
    have hall := ih.lexed (ends_cons (by decide) (by decide)) hbrackets
    simpa only [chars, tokens, hchars, htokens, List.append_assoc, List.cons_append,
      List.nil_append] using hall
  | not _ ih =>
    intro next more hnext hmore
    have hblank : Lexed (' ' :: (_ ++ next)) (_ ++ more) := (ih.lexed hnext hmore).blank
    have hword : Writes "not".toList [.not] := writes_word (by decide) rfl
    exact hword.lexed (ends_cons (by decide) (by decide)) hblank
  | negate _ _ ih =>
    intro next more hnext hmore
    exact .sign rfl (fun _ => rfl) (ih.lexed hnext hmore)
  | @binary op left right _ _ ihl ihr =>
    intro next more _ hmore
    have hinside : Writes (left.chars ++ ' ' :: (op.symbol.toList ++ ' ' :: right.chars))
        (left.tokens ++ op.token :: right.tokens) := by
      intro next more hnext hmore
      have hright : Lexed (' ' :: (right.chars ++ next)) (right.tokens ++ more) :=
        (ihr.lexed hnext hmore).blank
      have hoperator := (Lexed.spelled (spelled_operator op _) hright).blank
      have hall := ihl.lexed (ends_cons (by decide) (by decide)) hoperator
      simpa only [List.append_assoc, List.cons_append] using hall
    have hall := hinside.between .parentheses hmore
    simpa only [chars, tokens, List.append_assoc, List.cons_append, List.nil_append] using hall
  | @call object method args _ _ hmethod _ ih ihargs =>
    intro next more _ hmore
    have hparentheses := (writes_listChars ihargs).between .parentheses hmore
    have hall := lexed_member ih hmethod (ends_cons (by decide) (by decide)) hparentheses
    simpa only [chars, tokens, List.append_assoc, List.cons_append, List.nil_append] using hall
  | object hplain _ ih =>
    intro next more _ hmore
    have hall := (writes_fieldChars hplain ih).between .braces hmore
    simpa only [chars, tokens, List.append_assoc, List.cons_append, List.nil_append] using hall
  | array _ ih =>
    intro next more _ hmore
    have hall := (writes_listChars ih).between .square hmore
    simpa only [chars, tokens, List.append_assoc, List.cons_append, List.nil_append] using hall

end Expr

/-! ### What the tokens are derived as -/

namespace Derives

variable {ts : List Token} {e : Expr}

/-- An operand without operators between operands is an operand of every level. -/
theorem operation_of_unary (h : Derives .unary ts e) (level : Level) :
    Derives (.operation level) ts e := by
  have hproduct : Derives (.operation .product) ts e := .operand h
  have hsum : Derives (.operation .sum) ts e := .operand hproduct
  have hbitAnd : Derives (.operation .bitAnd) ts e := .operand hsum
  have hbitOr : Derives (.operation .bitOr) ts e := .operand hbitAnd
  have hcoalesce : Derives (.operation .coalesce) ts e := .operand hbitOr
  have hcomparison : Derives (.operation .comparison) ts e := .operand hcoalesce
  have hand : Derives (.operation .and) ts e := .operand hcomparison
  cases level with
  | or => exact .operand hand
  | _ => assumption

theorem leftOperand_of_unary (h : Derives .unary ts e) (level : Level) :
    Derives level.leftOperand ts e := by
  cases level <;> exact h.operation_of_unary _

theorem operand_of_unary (h : Derives .unary ts e) (level : Level) : Derives level.operand ts e := by
  cases level with
  | product => exact h
  | _ => exact h.operation_of_unary _

/-- An operation of any level is an expression. -/
theorem expression_of_operation {level : Level} (h : Derives (.operation level) ts e) :
    Derives .expression ts e := by
  -- each level is an operand of the one before
  have hand (h : Derives (.operation .and) ts e) : Derives .expression ts e := .operand h
  have hcomparison (h : Derives (.operation .comparison) ts e) : Derives .expression ts e :=
    hand (.operand h)
  have hcoalesce (h : Derives (.operation .coalesce) ts e) : Derives .expression ts e :=
    hcomparison (.operand h)
  have hbitOr (h : Derives (.operation .bitOr) ts e) : Derives .expression ts e :=
    hcoalesce (.operand h)
  have hbitAnd (h : Derives (.operation .bitAnd) ts e) : Derives .expression ts e :=
    hbitOr (.operand h)
  have hsum (h : Derives (.operation .sum) ts e) : Derives .expression ts e := hbitAnd (.operand h)
  cases level with
  | or => exact h
  | and => exact hand h
  | comparison => exact hcomparison h
  | coalesce => exact hcoalesce h
  | bitOr => exact hbitOr h
  | bitAnd => exact hbitAnd h
  | sum => exact hsum h
  | product => exact hsum (.operand h)

/-- Parentheses around an operation and its operands. -/
theorem parenthesized {ls rs : List Token} {l r : Expr} (op : BinaryOperator)
    (hl : Derives .unary ls l) (hr : Derives .unary rs r) :
    Derives .primary (.lParen :: (ls ++ op.token :: rs ++ [.rParen])) (.binary op l r) := by
  have hoperation : Derives (.operation op.level) (ls ++ op.token :: rs) (.binary op l r) :=
    .operation (hl.leftOperand_of_unary _) op.operator?_token (hr.operand_of_unary _)
  exact .parentheses hoperation.expression_of_operation

section Parts

variable {f : Expr → List Token} {es : List Expr}

theorem call_of_parts {as : List Token} (object : Derives .access ts e) (method : String)
    (hparts : Separated (es.map f) as) (h : ∀ e ∈ es, Derives .expression (f e) e) :
    Derives .access (ts ++ .dot :: .identifier method :: .lParen :: (as ++ [.rParen]))
      (.call e method es) := by
  have hcall := object.call method (es.map fun e => (f e, e))
    (by simpa [Function.comp_def] using hparts) (by simpa using h)
  simpa [Function.comp_def] using hcall

theorem array_of_parts (hparts : Separated (es.map f) ts)
    (h : ∀ e ∈ es, Derives .expression (f e) e) :
    Derives .primary (.lBracket :: (ts ++ [.rBracket])) (.array es) := by
  have harray := Derives.array (es.map fun e => (f e, e))
    (by simpa [Function.comp_def] using hparts) (by simpa using h)
  simpa [Function.comp_def] using harray

theorem object_of_parts {fields : List (String × Expr)}
    (hparts : Separated (fields.map fun p => .string p.1 :: .colon :: f p.2) ts)
    (h : ∀ p ∈ fields, Derives .expression (f p.2) p.2) :
    Derives .primary (.lBrace :: (ts ++ [.rBrace])) (.object fields) := by
  have hobject := Derives.object (fields.map fun p => (.string p.1 :: .colon :: f p.2, p))
    (by simpa [Function.comp_def] using hparts) (by
      rintro _ hmem
      obtain ⟨p, hp, rfl⟩ := List.mem_map.mp hmem
      exact .field rfl (h p hp))
  simpa [Function.comp_def] using hobject

end Parts

end Derives

theorem separated_listTokens (es : List Expr) :
    Separated (es.map Expr.tokens) (Expr.listTokens es) := by
  induction es with
  | nil => exact .nil
  | cons e es ih =>
    cases es with
    | nil => exact .last _
    | cons e' es => exact .cons _ ih

theorem separated_fieldTokens (fields : List (String × Expr)) :
    Separated (fields.map fun f => .string f.1 :: .colon :: f.2.tokens)
      (Expr.fieldTokens fields) := by
  induction fields with
  | nil => exact .nil
  | cons field fields ih =>
    cases fields with
    | nil => exact .last _
    | cons field' fields => exact .cons _ ih

namespace Expr

theorem negated_of_not_isInteger {e : Expr} (he : Readable e) (h : e.isInteger = false) :
    e.negated = .unary .negate e := by
  cases he with
  | integer _ => cases h
  | _ => rfl

/-- The tokens of expressions are derived as them. -/
structure Readable.Derived (e : Expr) : Prop where
  unary : Derives .unary e.tokens e
  access : e.isUnary = false → Derives .access e.tokens e

namespace Readable

theorem Derived.of_access {e : Expr} (h : Derives .access e.tokens e) : Derived e :=
  ⟨.unary h, fun _ => h⟩

theorem Derived.of_primary {e : Expr} (h : Derives .primary e.tokens e) : Derived e :=
  .of_access (.access h)

theorem Derived.expression {e : Expr} (h : Derived e) : Derives .expression e.tokens e :=
  h.unary.operation_of_unary .or

/-- The tokens of an expression are derived as the expression. -/
theorem derives {e : Expr} (h : Readable e) : Derived e := by
  induction h with
  | integer _ | string _ | boolean _ | null | root | element | param _ =>
    exact .of_primary (.atom rfl)
  | constant _ _ => exact .of_primary (.constant _ _)
  | @field object name _ hunary _ ih =>
    refine .of_access ?_
    by_cases hname : isName name = true
    · simpa only [tokens, keyTokens, if_pos hname] using (ih.access hunary).member name
    · have hkey : Derives .key [.string name] (.key name) := .key rfl
      simpa only [tokens, keyTokens, if_neg hname, List.cons_append, List.nil_append]
        using (ih.access hunary).index hkey
  | @index object key _ hunary hkey hname ih ihkey =>
    refine .of_access ?_
    have hindex := (ih.access hunary).index (.computed hname ihkey.expression)
    simpa only [tokens, (accessKey_of_readable hkey [] _).2] using hindex
  | not _ ih => exact ⟨.not ih.unary, nofun⟩
  | negate hinner hinteger ih =>
    have hnegate := Derives.negate ih.unary
    rw [negated_of_not_isInteger hinner hinteger] at hnegate
    exact ⟨hnegate, nofun⟩
  | binary _ _ ihl ihr => exact .of_primary (.parenthesized _ ihl.unary ihr.unary)
  | @call object method args _ hunary _ _ ih ihargs =>
    have harg : ∀ e ∈ args, Derives .expression e.tokens e :=
      fun e he => (ihargs e he).expression
    exact .of_access ((ih.access hunary).call_of_parts method (separated_listTokens args) harg)
  | @object fields _ _ ih =>
    have hvalue : ∀ f ∈ fields, Derives .expression f.2.tokens f.2 :=
      fun f hf => (ih f hf).expression
    exact .of_primary (.object_of_parts (separated_fieldTokens fields) hvalue)
  | @array elements _ ih =>
    have hpart : ∀ e ∈ elements, Derives .expression e.tokens e :=
      fun e he => (ih e he).expression
    exact .of_primary (.array_of_parts (separated_listTokens elements) hpart)

end Readable

/-- **Printing an expression and parsing the text gives the expression.** -/
theorem parse_print {e : Expr} (h : Readable e) : Expr.parse e.print = .ok e := by
  refine Expr.parse_eq_ok_iff_lexed.mpr ⟨e.tokens, ?_, h.derives.expression⟩
  have hlexed := h.writes.lexed ends_nil (.nil (List.forall_mem_nil _))
  rwa [List.append_nil, List.append_nil, ← String.toList_ofList (l := e.chars)] at hlexed

/-- A quoted key with quotes in it, a computed key behind a sign, a number in front of a point, and
a parameter with the name of a keyword. -/
theorem parse_print_nested :
    let quotedKey : Expr := .access .root (.key "the \"first\"")
    let computedKey : Expr := .unary .negate (.access (.integer 1) (.key "x"))
    let list : Expr := .array [.param "and", .string "\\", .boolean true]
    let call : Expr := .call (.constant "Kind" "A") "in" [list, .object [("", .element)]]
    let e : Expr := .binary .coalesce (.unary .not (.access quotedKey computedKey)) call
    Readable e ∧ Expr.parse e.print = .ok e := by
  intro quotedKey computedKey list call e
  have hquoted : Readable quotedKey := .field .root rfl (by decide)
  have hcomputed : Readable computedKey :=
    .negate (.field (.integer (by decide)) rfl (by decide)) rfl
  have hlist : Readable list := by
    refine .array fun e he => ?_
    simp only [List.mem_cons, List.not_mem_nil, or_false] at he
    rcases he with rfl | rfl | rfl
    · exact .param (by decide)
    · exact .string (by decide)
    · exact .boolean true
  have hobject : Readable (.object [("", .element)]) :=
    .object (List.forall_mem_singleton.mpr (by decide)) (List.forall_mem_singleton.mpr .element)
  have hcall : Readable call := by
    refine .call (.constant (by decide) (by decide)) rfl (by decide) fun e he => ?_
    simp only [List.mem_cons, List.not_mem_nil, or_false] at he
    rcases he with rfl | rfl
    · exact hlist
    · exact hobject
  have he : Readable e := .binary (.not (.index hquoted rfl hcomputed rfl)) hcall
  exact ⟨he, parse_print he⟩

end Expr

end DocQuery
