import DocQuery.Proofs.Query.Accepted
import DocQuery.Proofs.Query.Shown

/-!
# Printed expressions are told apart

Messages quote an expression by its text.  Printing puts parentheses around every operation between
two operands, but none around the object of a key or of a call; so an operator in front of an object
has the text of one in front of the whole access.  Apart from this, and as long as keys are names or
integers, different expressions of the language have different texts: the text shows the tokens, with
a token of its own for the sign of a number, and the tokens are derived as one expression.

## Main definitions

* `Token.spread`, `Expr.spread` — tokens with one for the sign of each number.
* `Expr.standsAlone` — neither an operator nor a sign is in front, and it is not infinity.
* `Expr.Quotable` — expressions with such objects, and with keys that are names or integers.
* `Expr.Printed`, `Expr.Derived` — the text shows the tokens, and the tokens are derived.

## Main results

* `Expr.Quotable.printed`, `Expr.Quotable.derived` — quotable expressions are both.
* `Expr.eq_of_print_eq` — **expressions of the language with the same text are the same**, if they
  have such objects and keys.
* `Expr.print_not_injective` — the condition on objects cannot be left out.
-/

namespace DocQuery

open Text

/-! ### Signs of numbers -/

namespace FloatLiteral

/-- The literal has a minus sign. -/
def isNegative : FloatLiteral → Bool
  | .finite x => x.negative
  | .infinite negative => negative

theorem neg_neg (x : FloatLiteral) : x.neg.neg = x := by
  cases x with
  | finite x => simp [neg, Binary64.neg]
  | infinite negative => simp [neg]

end FloatLiteral

/-- The tokens of a number, with a token for its sign. -/
def Token.spread : Token → List Token
  | .integer n => if n.toInt < 0 then [.minus, .integer (-n)] else [.integer n]
  | .float x => if x.isNegative then [.minus, .float x.neg] else [.float x]
  | token => [token]

/-! ### Expressions in front of texts -/

/-- The characters go on no expression that stands in brackets or on its own. -/
structure Closes (next : List Char) : Prop where
  ends : Ends next
  point : next.head? ≠ some '.'

theorem closes_nil : Closes [] :=
  ⟨ends_nil, nofun⟩

theorem closes_cons {c : Char} {next : List Char} (h : isNamePart c = false) (hpoint : c ≠ '.') :
    Closes (c :: next) :=
  ⟨ends_cons h hpoint, fun hhead => hpoint (Option.some.inj hhead)⟩

/-- The characters show the tokens in front of any text with the property. -/
def Prints (follows : List Char → Prop) (cs : List Char) (ts : List Token) : Prop :=
  ∀ next more, follows next → Shows next more → Shows (cs ++ next) (ts ++ more)

theorem Prints.shows {follows : List Char → Prop} {cs next : List Char} {ts more : List Token}
    (h : Prints follows cs ts) (hnext : follows next) (hmore : Shows next more) :
    Shows (cs ++ next) (ts ++ more) :=
  h next more hnext hmore

/-- What is shown between brackets. -/
theorem Prints.between {a b : Char} {opening closing : Token} {cs next : List Char}
    {ts more : List Token} (h : Prints Closes cs ts) (hbrackets : Brackets a b opening closing)
    (hmore : Shows next more) :
    Shows (a :: (cs ++ b :: next)) (opening :: (ts ++ closing :: more)) := by
  cases hbrackets
  all_goals
    refine .sign rfl rfl (fun _ => rfl) (h.shows (closes_cons (by decide) (by decide)) ?_)
    exact .sign rfl rfl (fun _ => rfl) hmore

namespace Expr

/-- The tokens of a printed expression, with tokens for the signs of numbers. -/
def spread (e : Expr) : List Token :=
  e.tokens.flatMap Token.spread

/-- The expression is no operator in front of an operand, no number with a sign, and not
infinity. -/
def standsAlone : Expr → Bool
  | .unary _ _ => false
  | .integer n => decide (0 ≤ n.toInt)
  | .float (.finite x) => !x.negative
  | .float (.infinite _) => false
  | _ => true

/-- The text of the expression shows its tokens.  In front of a point the name of infinity would be
that of a type, so only what stands alone may have one behind it. -/
structure Printed (e : Expr) : Prop where
  closed : Prints Closes e.chars e.spread
  alone : e.standsAlone = true → Prints Ends e.chars e.spread

theorem Printed.of_ends {e : Expr} (h : Prints Ends e.chars e.spread) : Printed e :=
  ⟨fun next more hnext hmore => h next more hnext.ends hmore, fun _ => h⟩

theorem Printed.of_closes {e : Expr} (halone : e.standsAlone = false)
    (h : Prints Closes e.chars e.spread) : Printed e :=
  ⟨h, fun htrue => absurd htrue (Bool.eq_false_iff.mp halone)⟩

end Expr

theorem prints_listChars {es : List Expr} (h : ∀ e ∈ es, e.Printed) :
    Prints Closes (Expr.listChars es) ((Expr.listTokens es).flatMap Token.spread) := by
  induction es with
  | nil => exact fun _ _ _ hmore => hmore
  | cons e es ih =>
    obtain ⟨he, hes⟩ := List.forall_mem_cons.mp h
    cases es with
    | nil => exact he.closed
    | cons e' es =>
      intro next more hnext hmore
      have hrest := (ih hes).shows hnext hmore
      have hcomma := Shows.sign (a := ',') rfl rfl (fun _ => rfl) hrest.blank
      have hall := he.closed.shows (closes_cons (by decide) (by decide)) hcomma
      simpa [Expr.listChars, Expr.listTokens, Expr.spread, Token.spread] using hall

/-- An entry of an object. -/
theorem prints_field (name : String) {e : Expr} (he : e.Printed) :
    Prints Closes ((quoted name).toList ++ [':', ' '] ++ e.chars)
      (.string name :: .colon :: e.spread) := by
  intro next more hnext hmore
  have hblank := (he.closed.shows hnext hmore).blank
  have hcolon : Shows (':' :: ' ' :: (e.chars ++ next)) (.colon :: (e.spread ++ more)) := by
    refine .spelled (w := []) rfl (.single rfl fun b hb => ?_) hblank
    cases hb
    rfl
  simpa only [List.append_assoc, List.cons_append, List.nil_append] using hcolon.string name

theorem prints_fieldChars {fields : List (String × Expr)} (h : ∀ f ∈ fields, f.2.Printed) :
    Prints Closes (Expr.fieldChars fields) ((Expr.fieldTokens fields).flatMap Token.spread) := by
  induction fields with
  | nil => exact fun _ _ _ hmore => hmore
  | cons field fields ih =>
    obtain ⟨hvalue, hvalues⟩ := List.forall_mem_cons.mp h
    obtain ⟨name, e⟩ := field
    have hfield := prints_field name hvalue
    cases fields with
    | nil => simpa [Expr.fieldChars, Expr.fieldTokens, Expr.spread, Token.spread] using hfield
    | cons field' fields =>
      intro next more hnext hmore
      have hrest := (ih hvalues).shows hnext hmore
      have hcomma := Shows.sign (a := ',') rfl rfl (fun _ => rfl) hrest.blank
      have hall := hfield.shows (closes_cons (by decide) (by decide)) hcomma
      simpa [Expr.fieldChars, Expr.fieldTokens, Expr.spread, Token.spread] using hall

namespace Expr

/-- Expressions that are told apart by their texts: no operator and no sign stands in front of an
object of keys or of a call, and keys are names or integers. -/
inductive Quotable : Expr → Prop
  | float (x : FloatLiteral) : Quotable (.float x)
  | integer {n : Int64} (negatable : Negatable n) : Quotable (.integer n)
  | string (s : String) : Quotable (.string s)
  | boolean (b : Bool) : Quotable (.boolean b)
  | null : Quotable .null
  | root : Quotable .root
  | element : Quotable .element
  | param {name : String} (isName : isName name = true) : Quotable (.param name)
  | constant {type member : String} (type_name : IsIdentifier type)
      (member_name : IsIdentifier member) : Quotable (.constant type member)
  | field {object : Expr} {name : String} (base : Quotable object)
      (alone : object.standsAlone = true) : Quotable (.access object (.key name))
  | index {object : Expr} {n : Int64} (base : Quotable object) (alone : object.standsAlone = true)
      (negatable : Negatable n) : Quotable (.access object (.integer n))
  | not {operand : Expr} (inner : Quotable operand) : Quotable (.unary .not operand)
  | negate {operand : Expr} (inner : Quotable operand) (notNumber : operand.isNumber = false) :
      Quotable (.unary .negate operand)
  | binary (op : BinaryOperator) {left right : Expr} (first : Quotable left)
      (second : Quotable right) : Quotable (.binary op left right)
  | call {object : Expr} {method : String} {args : List Expr} (base : Quotable object)
      (alone : object.standsAlone = true) (method_name : IsIdentifier method)
      (arg : ∀ e ∈ args, Quotable e) : Quotable (.call object method args)
  | object {fields : List (String × Expr)} (value : ∀ f ∈ fields, Quotable f.2) :
      Quotable (.object fields)
  | array {elements : List Expr} (part : ∀ e ∈ elements, Quotable e) : Quotable (.array elements)

/-! ### Tokens of signed numbers and of expressions with parts -/

theorem spread_float (x : FloatLiteral) :
    (float x).spread = if x.isNegative then [.minus, .float x.neg] else [.float x] :=
  List.append_nil _

theorem spread_integer (n : Int64) :
    (integer n).spread = if n.toInt < 0 then [.minus, .integer (-n)] else [.integer n] :=
  List.append_nil _

theorem spread_field (object : Expr) (name : String) :
    (access object (.key name)).spread = object.spread ++ keyTokens (.key name) [] := by
  rw [spread, tokens, List.flatMap_append, keyTokens, keyTokens]
  split <;> rfl

theorem spread_index (object : Expr) (n : Int64) :
    (access object (.integer n)).spread
      = object.spread ++ .lBracket :: ((integer n).spread ++ [.rBracket]) := by
  rw [spread, tokens, List.flatMap_append, keyTokens, List.flatMap_cons, List.flatMap_append]
  · rfl
  · intro name h
    cases h

theorem spread_unary (op : UnaryOperator) (operand : Expr) :
    (unary op operand).spread = op.token :: operand.spread := by
  cases op <;> rfl

theorem spread_binary (op : BinaryOperator) (left right : Expr) :
    (binary op left right).spread
      = .lParen :: (left.spread ++ op.token :: right.spread ++ [.rParen]) := by
  have hop : op.token.spread = [op.token] := by cases op <;> rfl
  rw [spread, tokens, List.flatMap_cons, List.flatMap_append, List.flatMap_append,
    List.flatMap_cons, hop]
  rfl

theorem spread_call (object : Expr) (method : String) (args : List Expr) :
    (call object method args).spread = object.spread ++ .dot :: .identifier method :: .lParen ::
      ((listTokens args).flatMap Token.spread ++ [.rParen]) := by
  rw [spread, tokens, List.flatMap_append, List.flatMap_cons, List.flatMap_cons, List.flatMap_cons,
    List.flatMap_append]
  rfl

theorem spread_object (fields : List (String × Expr)) :
    (object fields).spread
      = .lBrace :: ((fieldTokens fields).flatMap Token.spread ++ [.rBrace]) := by
  rw [spread, tokens, List.flatMap_cons, List.flatMap_append]
  rfl

theorem spread_array (elements : List Expr) :
    (array elements).spread
      = .lBracket :: ((listTokens elements).flatMap Token.spread ++ [.rBracket]) := by
  rw [spread, tokens, List.flatMap_cons, List.flatMap_append]
  rfl

/-! ### The text of an expression -/

/-- A number without a sign. -/
theorem Printed.of_numeral {e : Expr} {token : Token} (hspread : e.spread = [token])
    (hnumeral : token.numeral? = some e.chars) : e.Printed := by
  refine .of_ends fun next more hnext hmore => ?_
  rw [hspread]
  exact .number hnumeral hnext hmore

/-- A number with a sign. -/
theorem Printed.of_sign {e : Expr} {token : Token} {w : List Char} (hchars : e.chars = '-' :: w)
    (hspread : e.spread = [.minus, token]) (halone : e.standsAlone = false)
    (h : Prints Closes w [token]) : e.Printed := by
  refine .of_closes halone fun next more hnext hmore => ?_
  rw [hchars, hspread]
  exact .sign rfl rfl (fun _ => rfl) (h.shows hnext hmore)

theorem prints_numeral {token : Token} {w : List Char} (h : token.numeral? = some w) :
    Prints Closes w [token] :=
  fun _ _ hnext hmore => .number h hnext.ends hmore

theorem prints_infinity : Prints Closes "inf".toList [.float (.infinite false)] := by
  intro next more hnext hmore
  have hword := hmore.word "inf" (by decide) hnext.ends.name
  rwa [shownWord, if_pos ⟨rfl, hnext.point⟩] at hword

theorem printed_float (x : FloatLiteral) : (float x).Printed := by
  cases x with
  | infinite negative =>
    cases negative with
    | false => exact .of_closes rfl prints_infinity
    | true => exact .of_sign rfl rfl rfl prints_infinity
  | finite x =>
    have hchars : (float (.finite x)).chars
        = (if x.negative then ['-'] else []) ++ x.unsignedPrint messageLayout :=
      x.toList_print messageLayout
    cases hx : x.negative with
    | true =>
      rw [hx] at hchars
      have hneg : x.neg.negative = false := by rw [Binary64.neg, hx]; rfl
      refine .of_sign hchars ((spread_float _).trans (if_pos hx)) ?_ (prints_numeral ?_)
      · rw [standsAlone, hx]
        rfl
      · rw [FloatLiteral.neg, Token.numeral?, hneg]
        rfl
    | false =>
      rw [hx] at hchars
      refine .of_numeral ((spread_float _).trans (if_neg (Bool.eq_false_iff.mp hx))) ?_
      rw [Token.numeral?, hx, hchars]
      rfl

theorem printed_integer {n : Int64} (h : Negatable n) : (integer n).Printed := by
  have hchars : (integer n).chars = integerText n.toInt := toList_toString_int n.toInt
  rw [integerText] at hchars
  by_cases hn : n.toInt < 0
  · rw [if_pos hn] at hchars
    refine .of_sign hchars ((spread_integer n).trans (if_pos hn)) ?_ (prints_numeral ?_)
    · rw [standsAlone, decide_eq_false (Int.not_le.mpr hn)]
    -- the digits are those of the negation, as no integer without one is printed
    · rw [Token.numeral?, h.exact, if_neg (by omega), Int.natAbs_neg]
      rfl
  · rw [if_neg hn] at hchars
    refine .of_numeral ((spread_integer n).trans (if_neg hn)) ?_
    rw [Token.numeral?, if_neg hn, hchars]
    rfl

/-! ### The text of an expression with parts -/

theorem printed_param {name : String} (hname : isName name = true) : (param name).Printed := by
  refine .of_ends fun next more hnext hmore => ?_
  have hspelled : Spelled (.param (String.ofList name.toList)) ('$' :: name.toList) next :=
    .param hname hnext.name
  rw [String.ofList_toList] at hspelled
  exact .spelled rfl hspelled hmore

theorem printed_constant {type member : String} (htype : IsIdentifier type)
    (hmember : IsIdentifier member) : (constant type member).Printed := by
  refine .of_ends fun next more hnext hmore => ?_
  have hstops : Stops isNamePart ('.' :: (member.toList ++ next)) := stops_cons.mpr (by decide)
  have hword := (hmore.member hmember.1 hnext.name).word type htype.1 hstops
  -- the point behind the type tells it from infinity
  rw [shownWord, if_neg fun h => h.2 rfl, htype.2] at hword
  rw [chars, List.append_assoc]
  exact hword

namespace Printed

variable {base : Expr}

theorem field (h : base.Printed) (halone : base.standsAlone = true) (name : String) :
    (access base (.key name)).Printed := by
  refine .of_ends fun next more hnext hmore => ?_
  by_cases hname : isName name = true
  · have hall := (h.alone halone).shows (ends_point hname) (hmore.member hname hnext.name)
    simpa only [spread_field, chars, accessKey, keyTokens, if_pos hname, List.append_assoc,
      List.cons_append, List.nil_append] using hall
  · have hquoted : Prints Closes (quoted name).toList [.string name] :=
      fun next more _ hmore => hmore.string name
    have hall := (h.alone halone).shows (ends_cons (by decide) (by decide))
      (hquoted.between .square hmore)
    simpa only [spread_field, chars, accessKey, keyTokens, if_neg hname, List.append_assoc,
      List.cons_append, List.nil_append] using hall

theorem index (h : base.Printed) (halone : base.standsAlone = true) {n : Int64}
    (hn : Negatable n) : (access base (.integer n)).Printed := by
  refine .of_ends fun next more _ hmore => ?_
  -- a sign in front of the key is inside the brackets, where it belongs to nothing else
  have hall := (h.alone halone).shows (ends_cons (by decide) (by decide))
    ((printed_integer hn).closed.between .square hmore)
  simpa only [spread_index, chars, accessKey, List.append_assoc, List.cons_append,
    List.nil_append] using hall

theorem unary (op : UnaryOperator) {operand : Expr} (h : operand.Printed) :
    (Expr.unary op operand).Printed := by
  refine .of_closes rfl fun next more hnext hmore => ?_
  have hoperand := h.closed.shows hnext hmore
  rw [spread_unary]
  cases op with
  | not =>
    exact .keyword "not" (by decide) (by decide) rfl (stops_cons.mpr (by decide)) hoperand.blank
  | negate => exact .sign rfl rfl (fun _ => rfl) hoperand

theorem binary (op : BinaryOperator) {left right : Expr} (hl : left.Printed) (hr : right.Printed) :
    (Expr.binary op left right).Printed := by
  refine .of_ends fun next more _ hmore => ?_
  have hinside : Prints Closes (left.chars ++ ' ' :: (op.symbol.toList ++ ' ' :: right.chars))
      (left.spread ++ op.token :: right.spread) := by
    intro next more hnext hmore
    have hoperator := ((hr.closed.shows hnext hmore).operator op).blank
    have hall := hl.closed.shows (closes_cons (by decide) (by decide)) hoperator
    simpa only [List.append_assoc, List.cons_append] using hall
  have hall := hinside.between .parentheses hmore
  simpa only [spread_binary, chars, List.append_assoc, List.cons_append, List.nil_append] using hall

theorem call (h : base.Printed) (halone : base.standsAlone = true) {method : String}
    (hmethod : isName method = true) {args : List Expr} (hargs : ∀ e ∈ args, e.Printed) :
    (Expr.call base method args).Printed := by
  refine .of_ends fun next more _ hmore => ?_
  have hparentheses := (prints_listChars hargs).between .parentheses hmore
  have hmember := hparentheses.member hmethod (stops_cons.mpr (by decide))
  have hall := (h.alone halone).shows (ends_point hmethod) hmember
  simpa only [spread_call, chars, List.append_assoc, List.cons_append, List.nil_append] using hall

theorem object {fields : List (String × Expr)} (h : ∀ f ∈ fields, f.2.Printed) :
    (Expr.object fields).Printed := by
  refine .of_ends fun next more _ hmore => ?_
  have hall := (prints_fieldChars h).between .braces hmore
  simpa only [spread_object, chars, List.append_assoc, List.cons_append, List.nil_append] using hall

theorem array {elements : List Expr} (h : ∀ e ∈ elements, e.Printed) :
    (Expr.array elements).Printed := by
  refine .of_ends fun next more _ hmore => ?_
  have hall := (prints_listChars h).between .square hmore
  simpa only [spread_array, chars, List.append_assoc, List.cons_append, List.nil_append] using hall

end Printed

theorem Quotable.printed {e : Expr} (h : e.Quotable) : e.Printed := by
  induction h with
  | float x => exact printed_float x
  | integer hn => exact printed_integer hn
  | string s => exact .of_ends fun next more _ hmore => hmore.string s
  | boolean b =>
    refine .of_ends fun next more hnext hmore => ?_
    cases b <;> exact .keyword _ (by decide) (by decide) rfl hnext.name hmore
  | null =>
    exact .of_ends fun next more hnext hmore =>
      .keyword _ (by decide) (by decide) rfl hnext.name hmore
  | root =>
    exact .of_ends fun next more hnext hmore =>
      .spelled (w := []) rfl (.dollar (stops_isNameStart hnext.name)) hmore
  | element => exact .of_ends fun next more _ hmore => .sign rfl rfl (fun _ => rfl) hmore
  | param hname => exact printed_param hname
  | constant htype hmember => exact printed_constant htype hmember
  | field _ halone ih => exact ih.field halone _
  | index _ halone hn ih => exact ih.index halone hn
  | not _ ih => exact ih.unary .not
  | negate _ _ ih => exact ih.unary .negate
  | binary op _ _ ihl ihr => exact .binary op ihl ihr
  | call _ halone hmethod _ ih ihargs => exact ih.call halone hmethod.1 ihargs
  | object _ ih => exact .object ih
  | array _ ih => exact .array ih

end Expr

/-! ### What the tokens are derived as -/

/-- A part of the tokens changed, and the commas kept. -/
theorem Separated.flatMap {f : Token → List Token} (hcomma : f .comma = [.comma])
    {parts : List (List Token)} {ts : List Token} (h : Separated parts ts) :
    Separated (parts.map (·.flatMap f)) (ts.flatMap f) := by
  induction h with
  | nil => exact .nil
  | last part => exact .last _
  | cons part _ ih =>
    rw [List.flatMap_append, List.flatMap_cons, hcomma]
    exact .cons _ ih

namespace Expr

theorem separated_spread (es : List Expr) :
    Separated (es.map spread) ((listTokens es).flatMap Token.spread) := by
  have hparts := (separated_listTokens es).flatMap (f := Token.spread) rfl
  rwa [List.map_map] at hparts

theorem separated_fieldSpread (fields : List (String × Expr)) :
    Separated (fields.map fun f => .string f.1 :: .colon :: f.2.spread)
      ((fieldTokens fields).flatMap Token.spread) := by
  have hparts := (separated_fieldTokens fields).flatMap (f := Token.spread) rfl
  rwa [List.map_map] at hparts

/-- The tokens of the expression are derived as the expression. -/
structure Derived (e : Expr) : Prop where
  unary : Derives .unary e.spread e
  access : e.standsAlone = true → Derives .access e.spread e

namespace Derived

theorem of_access {e : Expr} (h : Derives .access e.spread e) : e.Derived :=
  ⟨.unary h, fun _ => h⟩

theorem of_unary {e : Expr} (halone : e.standsAlone = false) (h : Derives .unary e.spread e) :
    e.Derived :=
  ⟨h, fun htrue => absurd htrue (Bool.eq_false_iff.mp halone)⟩

theorem of_primary {e : Expr} (h : Derives .primary e.spread e) : e.Derived :=
  .of_access (.access h)

theorem expression {e : Expr} (h : e.Derived) : Derives .expression e.spread e :=
  h.unary.operation_of_unary .or

theorem of_atom {e : Expr} {token : Token} (hspread : e.spread = [token])
    (hatom : token.atom? = some e) : e.Derived :=
  .of_primary (hspread ▸ .atom hatom)

/-- A number with a sign. -/
theorem of_sign {e e' : Expr} {token : Token} (hspread : e.spread = [.minus, token])
    (halone : e.standsAlone = false) (hatom : token.atom? = some e') (hneg : e'.negated = e) :
    e.Derived := by
  have hderives := Derives.negate (.unary (.access (.atom hatom)))
  rw [hneg, ← hspread] at hderives
  exact .of_unary halone hderives

end Derived

theorem derived_float (x : FloatLiteral) : (float x).Derived := by
  cases hx : x.isNegative with
  | true =>
    refine .of_sign ((spread_float x).trans (if_pos hx)) ?_ rfl ?_
    · cases x with
      | finite x => rw [standsAlone, show x.negative = true from hx]; rfl
      | infinite negative => rfl
    · rw [negated, FloatLiteral.neg_neg]
  | false => exact .of_atom ((spread_float x).trans (if_neg (Bool.eq_false_iff.mp hx))) rfl

theorem derived_integer (n : Int64) : (integer n).Derived := by
  by_cases hn : n.toInt < 0
  · refine .of_sign ((spread_integer n).trans (if_pos hn)) ?_ rfl ?_
    · rw [standsAlone, decide_eq_false (Int.not_le.mpr hn)]
    · rw [negated, Int64.neg_neg]
  · exact .of_atom ((spread_integer n).trans (if_neg hn)) rfl

theorem negated_of_not_isNumber {e : Expr} (h : e.isNumber = false) :
    e.negated = .unary .negate e := by
  cases e with
  | float | integer => cases h
  | _ => rfl

theorem Quotable.derived {e : Expr} (h : e.Quotable) : e.Derived := by
  induction h with
  | float x => exact derived_float x
  | integer _ => exact derived_integer _
  | string _ | boolean _ | null | root | element | param _ => exact .of_atom rfl rfl
  | constant _ _ => exact .of_primary (.constant _ _)
  | @field object name _ halone ih =>
    refine .of_access ?_
    rw [spread_field, keyTokens]
    split
    · exact (ih.access halone).member name
    · have hkey : Derives .key [.string name] (.key name) := .key rfl
      exact (ih.access halone).index hkey
  | @index object n _ halone _ ih =>
    refine .of_access ?_
    have hname : (Expr.integer n).spread.head?.bind Token.keyName? = none := by
      rw [spread_integer]
      split <;> rfl
    rw [spread_index]
    exact (ih.access halone).index (.computed hname (derived_integer n).expression)
  | not _ ih => exact .of_unary rfl (.not ih.unary)
  | negate _ hnumber ih =>
    have hnegate := Derives.negate ih.unary
    rw [negated_of_not_isNumber hnumber] at hnegate
    exact .of_unary rfl hnegate
  | binary op _ _ ihl ihr =>
    refine .of_primary ?_
    rw [spread_binary]
    exact .parenthesized op ihl.unary ihr.unary
  | @call object method args _ halone _ _ ih ihargs =>
    refine .of_access ?_
    rw [spread_call]
    exact (ih.access halone).call_of_parts method (separated_spread args)
      fun e he => (ihargs e he).expression
  | @object fields _ ih =>
    refine .of_primary ?_
    rw [spread_object]
    exact .object_of_parts (separated_fieldSpread fields) fun f hf => (ih f hf).expression
  | @array elements _ ih =>
    refine .of_primary ?_
    rw [spread_array]
    exact .array_of_parts (separated_spread elements) fun e he => (ih e he).expression

end Expr

/-! ### Texts of expressions of the language -/

namespace Expr

/-- An operator in front of an object is printed like one in front of all that follows it. -/
theorem print_access_unary (op : UnaryOperator) (operand key : Expr) :
    (access (unary op operand) key).print = (unary op (access operand key)).print := by
  simp only [print, chars, List.append_assoc]

theorem Quotable.shows {e : Expr} (h : e.Quotable) : Shows e.chars e.spread := by
  have hshows := h.printed.closed.shows closes_nil .nil
  rwa [List.append_nil, List.append_nil] at hshows

/-- Quotable expressions are told apart by their texts. -/
theorem Quotable.eq_of_chars_eq {e e' : Expr} (h : e.Quotable) (h' : e'.Quotable)
    (hchars : e.chars = e'.chars) : e = e' := by
  -- from the text to the tokens, and from the tokens to the expression
  have hspread : e.spread = e'.spread := h.shows.unique (hchars ▸ h'.shows)
  exact h.derived.expression.unique h.shows.notMem (hspread ▸ h'.derived.expression)

/-- The key of the expression, if it has one, is a name or an integer. -/
def hasPlainKey : Expr → Bool
  | .access _ (.key _) => true
  | .access _ (.integer _) => true
  | .access _ _ => false
  | _ => true

/-- The object of the expression, if it has one, stands alone. -/
def hasLoneObject : Expr → Bool
  | .access base _ => base.standsAlone
  | .call base _ _ => base.standsAlone
  | _ => true

theorem Accepted.quotable {e : Expr} (h : e.Accepted)
    (hkeys : ∀ k ∈ e.subexpressions, k.hasPlainKey = true)
    (halone : ∀ o ∈ e.subexpressions, o.hasLoneObject = true) : e.Quotable := by
  induction h with
  | float x => exact .float x
  | integer hn => exact .integer hn
  | string s => exact .string s
  | boolean b => exact .boolean b
  | null => exact .null
  | root => exact .root
  | element => exact .element
  | param hname => exact .param hname
  | constant htype hmember => exact .constant htype hmember
  | field _ name ih =>
    rw [subexpressions, List.forall_mem_cons, List.forall_mem_append] at hkeys halone
    exact .field (ih hkeys.2.1 halone.2.1) halone.1
  | @index object key _ hkey ih _ =>
    rw [subexpressions, List.forall_mem_cons, List.forall_mem_append] at hkeys halone
    have hobject := ih hkeys.2.1 halone.2.1
    -- of the keys that are expressions only integers are left
    cases hkey with
    | integer hn => exact .index hobject halone.1 hn
    | _ => exact absurd hkeys.1 Bool.false_ne_true
  | not _ ih =>
    rw [subexpressions, List.forall_mem_cons] at hkeys halone
    exact .not (ih hkeys.2 halone.2)
  | negate _ hnumber ih =>
    rw [subexpressions, List.forall_mem_cons] at hkeys halone
    exact .negate (ih hkeys.2 halone.2) hnumber
  | binary op _ _ ihl ihr =>
    rw [subexpressions, List.forall_mem_cons, List.forall_mem_append] at hkeys halone
    exact .binary op (ihl hkeys.2.1 halone.2.1) (ihr hkeys.2.2 halone.2.2)
  | call _ hmethod _ ih ihargs =>
    rw [subexpressions, List.forall_mem_cons, List.forall_mem_append,
      forall_mem_listSubexpressions] at hkeys halone
    exact .call (ih hkeys.2.1 halone.2.1) halone.1 hmethod
      fun e he => ihargs e he (hkeys.2.2 e he) (halone.2.2 e he)
  | object _ ih =>
    rw [subexpressions, List.forall_mem_cons, forall_mem_fieldSubexpressions] at hkeys halone
    exact .object fun f hf => ih f hf (hkeys.2 f hf) (halone.2 f hf)
  | array _ ih =>
    rw [subexpressions, List.forall_mem_cons, forall_mem_listSubexpressions] at hkeys halone
    exact .array fun e he => ih e he (hkeys.2 e he) (halone.2 e he)

/-- **Expressions of the language with the same text are the same**, if all their keys are names or
integers and all objects of their keys and calls stand alone. -/
theorem eq_of_print_eq {source source' : String} {e e' : Expr} (h : Expr.parse source = .ok e)
    (h' : Expr.parse source' = .ok e') (hkeys : ∀ k ∈ e.subexpressions, k.hasPlainKey = true)
    (hkeys' : ∀ k ∈ e'.subexpressions, k.hasPlainKey = true)
    (halone : ∀ o ∈ e.subexpressions, o.hasLoneObject = true)
    (halone' : ∀ o ∈ e'.subexpressions, o.hasLoneObject = true) (hprint : e.print = e'.print) :
    e = e' :=
  ((accepted_of_parse h).quotable hkeys halone).eq_of_chars_eq
    ((accepted_of_parse h').quotable hkeys' halone') (String.ofList_injective hprint)

/-- Signs in front of a number and of a parameter, an index and a call, with more parentheses in one
text than in the other. -/
theorem eq_of_print_eq_parentheses :
    let e : Expr := .binary .less (.integer (-1))
      (.call (.access .root (.integer 3)) "f" [.unary .negate (.param "p")])
    Expr.parse "-1 < $[3].f(-$p)" = .ok e ∧ Expr.parse "(-(1) < ($[3]).f(-($p)))" = .ok e ∧
      e.print = "(-1 < $[3].f(-$p))" ∧ e = e := by
  intro e
  have h : Expr.parse "-1 < $[3].f(-$p)" = .ok e := rfl
  have h' : Expr.parse "(-(1) < ($[3]).f(-($p)))" = .ok e := rfl
  have hkeys : ∀ k ∈ e.subexpressions, k.hasPlainKey = true := List.all_eq_true.mp rfl
  have halone : ∀ o ∈ e.subexpressions, o.hasLoneObject = true := List.all_eq_true.mp rfl
  exact ⟨h, h', rfl, eq_of_print_eq h h' hkeys hkeys halone halone rfl⟩

/-- An operator in front of an object has the text of one in front of the key. -/
theorem print_not_injective :
    ¬ ∀ (source source' : String) (e e' : Expr), Expr.parse source = .ok e →
      Expr.parse source' = .ok e' → (∀ k ∈ e.subexpressions, k.hasPlainKey = true) →
      (∀ k ∈ e'.subexpressions, k.hasPlainKey = true) → e.print = e'.print → e = e' := by
  intro h
  have heq := h "(-$).a" "-$.a" (.access (.unary .negate .root) (.key "a"))
    (.unary .negate (.access .root (.key "a"))) rfl rfl (List.all_eq_true.mp rfl)
    (List.all_eq_true.mp rfl) (print_access_unary .negate .root (.key "a"))
  cases heq

end Expr

end DocQuery
