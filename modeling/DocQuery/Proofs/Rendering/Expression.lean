import DocQuery.Pipeline.Rendering
import DocQuery.Proofs.Evaluation.Expression
import DocQuery.Proofs.Pipeline.Induction
import DocQuery.Proofs.Pipeline.WellFormed
import Mathlib.Data.List.TakeWhile

/-!
# Reading expressions back

A document is read as an expression the way a server reads it: a text with a dollar sign in front
is a path or a variable, an object with such a key is an application, everything else stands for
itself.  What was rendered from an expression is read back as one with the same value.  The two
need not be equal: an array of constants and a constant array are written in the same way.

## Main definitions

* `Expression.ofText`, `Expression.ofOperator` — the reading of texts and of applications.
* `Expression.read` — the reading of documents.

## Main results

* `Expression.eval_read_constant` — a constant that needs no wrapping is read as its value.
* `Expression.eval_read` — a rendered expression is read as one with its value.
-/

namespace DocQuery

/-! ### Texts -/

theorem startsWithDollar_eq_false_iff {s : String} :
    startsWithDollar s = false ↔ ∀ rest, s.toList ≠ '$' :: rest := by
  rw [startsWithDollar]
  cases s.toList with
  | nil => simp
  | cons c cs => simp

namespace Text

/-- No name has a dot or a dollar sign in it. -/
theorem forall_mem_of_isName {name : String} (h : isName name = true) :
    ∀ c ∈ name.toList, c ≠ '.' ∧ c ≠ '$' := by
  -- a name has letters, digits, marks and connectors in it, and these two are none of them
  have hpart : ∀ c, isNamePart c = true → c ≠ '.' ∧ c ≠ '$' := by
    intro c hc
    constructor
    · rintro rfl
      exact absurd hc (by decide +kernel)
    · rintro rfl
      exact absurd hc (by decide +kernel)
  have hstart : ∀ c, isNameStart c = true → c ≠ '.' ∧ c ≠ '$' := by
    intro c hc
    constructor
    · rintro rfl
      exact absurd hc (by decide +kernel)
    · rintro rfl
      exact absurd hc (by decide +kernel)
  rw [isName] at h
  cases hname : name.toList with
  | nil => exact List.forall_mem_nil _
  | cons c cs =>
    rw [hname, isNameChars, Bool.and_eq_true, List.all_eq_true] at h
    exact List.forall_mem_cons.mpr ⟨hstart c h.1, fun d hd => hpart d (h.2 d hd)⟩

theorem startsWithDollar_of_isName {name : String} (h : isName name = true) :
    startsWithDollar name = false := by
  rw [startsWithDollar_eq_false_iff]
  intro rest hrest
  exact (forall_mem_of_isName h '$' (hrest ▸ List.mem_cons_self)).2 rfl

end Text

namespace Expression

/-- The reading of a text: a dollar sign begins a path, two of them a variable and, behind a dot, a
path in its value. -/
def ofText (s : String) : Expression :=
  match s.toList with
  | '$' :: '$' :: rest =>
    match rest.dropWhile (· != '.') with
    | [] => .var (String.ofList rest)
    | _ :: path =>
      .field (some (String.ofList (rest.takeWhile (· != '.')))) (String.ofList path)
  | '$' :: rest => .field none (String.ofList rest)
  | _ => .constant (.string s)

theorem ofText_of_not_startsWithDollar {s : String} (h : startsWithDollar s = false) :
    ofText s = .constant (.string s) := by
  rw [startsWithDollar_eq_false_iff] at h
  rw [ofText]
  split
  · next hs => exact absurd hs (h _)
  · next hs => exact absurd hs (h _)
  · rfl

theorem ofText_path {path : String} (h : startsWithDollar path = false) :
    ofText s!"${path}" = .field none path := by
  rw [startsWithDollar_eq_false_iff] at h
  have hs : (s!"${path}").toList = '$' :: path.toList := by simp [toString]
  rw [ofText, hs]
  split
  · next hrest => exact absurd (List.cons.inj hrest).2 (h _)
  · next hrest =>
    rw [← (List.cons.inj hrest).2, String.ofList_toList]
  · next hnot => exact absurd rfl (hnot _)

/-- A name ends where the first dot is. -/
private theorem takeWhile_dropWhile_name {name : String} (h : Text.isName name = true)
    (rest : List Char) :
    (name.toList ++ '.' :: rest).takeWhile (· != '.') = name.toList ∧
      (name.toList ++ '.' :: rest).dropWhile (· != '.') = '.' :: rest := by
  have hname : ∀ c ∈ name.toList, (c != '.') = true := fun c hc =>
    bne_iff_ne.mpr (Text.forall_mem_of_isName h c hc).1
  constructor
  · rw [List.takeWhile_append_of_pos hname, List.takeWhile_cons_of_neg (by simp), List.append_nil]
  · rw [List.dropWhile_append_of_pos hname, List.dropWhile_cons_of_neg (by simp)]

theorem ofText_variable {name : String} (h : Text.isName name = true) :
    ofText s!"$${name}" = .var name := by
  have hs : (s!"$${name}").toList = '$' :: '$' :: name.toList := by simp [toString]
  have hname : name.toList.dropWhile (· != '.') = [] := by
    rw [List.dropWhile_eq_nil_iff]
    exact fun c hc => bne_iff_ne.mpr (Text.forall_mem_of_isName h c hc).1
  rw [ofText, hs]
  simp only [hname, String.ofList_toList]

theorem ofText_variableField {name path : String} (h : Text.isName name = true) :
    ofText s!"$${name}.{path}" = .field (some name) path := by
  have hs : (s!"$${name}.{path}").toList = '$' :: '$' :: (name.toList ++ '.' :: path.toList) := by
    simp [toString]
  obtain ⟨htake, hdrop⟩ := takeWhile_dropWhile_name h path.toList
  rw [ofText, hs]
  simp only [htake, hdrop, String.ofList_toList]

/-! ### Applications -/

/-- The reading of a function of one argument.  An array around an array holds its one argument. -/
def ofUnary (function : UnaryFunction) (arg : Expression) : Expression :=
  match function, arg with
  | .trim, .document [(_, input)] => .unary .trim input
  | .trim, arg => .unary .trim arg
  | function, .array [single] => .unary function single
  | function, arg => .unary function arg

/-- The reading of a function of two arguments. -/
def ofBinary (function : BinaryFunction) : Expression → Expression
  | .array [left, right] => .binary function left right
  | _ => .constant .null

/-- The reading of a function of any number of arguments. -/
def ofVariadic (function : VariadicFunction) : Expression → Expression
  | .array args => .variadic function args
  | arg => .variadic function [arg]

/-- The reading of the access to a field. -/
def ofGetField : Expression → Expression
  | .document [(_, .constant (.string name)), (_, input)] => .getField name input
  | _ => .constant .null

/-- The reading of an operator that binds a variable. -/
def ofBinder (make : Expression → String → Expression → Expression) : Expression → Expression
  | .document [(_, input), (_, .constant (.string name)), (_, body)] => make input name body
  | _ => .constant .null

/-- The reading of an operator with its argument unread and read.  What is never rendered is read as
null. -/
def ofOperator (key : String) (raw : Value) (arg : Expression) : Expression :=
  match UnaryFunction.ofName? key, BinaryFunction.ofName? key, VariadicFunction.ofName? key with
  | some function, _, _ => ofUnary function arg
  | none, some function, _ => ofBinary function arg
  | none, none, some function => ofVariadic function arg
  | none, none, none =>
    if key = "$literal" then .constant raw
    else if key = "$getField" then ofGetField arg
    else if key = "$filter" then ofBinder .filter arg
    else if key = "$map" then ofBinder .map arg
    else .constant .null

/-- The reading of an object from its entries, unread and read. -/
def ofEntries : List (String × Value × Expression) → Expression
  | [(key, raw, arg)] =>
    if startsWithDollar key then ofOperator key raw arg else .document [(key, arg)]
  | entries => .document (entries.map fun (key, _, e) => (key, e))

mutual

/-- The reading of a document as an expression. -/
def read : Value → Expression
  | .string s => ofText s
  | .array items => .array (readAll items)
  | .object fields => ofEntries (readFields fields)
  | value => .constant value

/-- The readings of documents. -/
def readAll : List Value → List Expression
  | [] => []
  | item :: items => read item :: readAll items

/-- The entries of an object with their readings. -/
def readFields : List (String × Value) → List (String × Value × Expression)
  | [] => []
  | (key, value) :: fields => (key, value, read value) :: readFields fields

end

theorem readAll_eq_map (items : List Value) : readAll items = items.map read := by
  induction items with
  | nil => rfl
  | cons item items ih => rw [readAll, ih, List.map_cons]

theorem readFields_eq_map (fields : List (String × Value)) :
    readFields fields = fields.map fun (key, value) => (key, value, read value) := by
  induction fields with
  | nil => rfl
  | cons field fields ih => rw [readFields, ih, List.map_cons]

/-- The reading of an array. -/
theorem read_array (items : List Value) : read (.array items) = .array (items.map read) := by
  rw [read, readAll_eq_map]

/-- Without a dollar sign before a key, an object is read entry by entry. -/
theorem read_object {fields : List (String × Value)}
    (h : ∀ field ∈ fields, startsWithDollar field.1 = false) :
    read (.object fields) = .document (fields.map fun field => (field.1, read field.2)) := by
  rw [read, readFields_eq_map]
  cases fields with
  | nil => rfl
  | cons field fields =>
    cases fields with
    | nil =>
      rw [List.map_singleton, ofEntries, if_neg (by simp [h field List.mem_cons_self])]
      rfl
    | cons field' fields =>
      rw [List.map_cons, List.map_cons, ofEntries]
      · simp
      · intro key raw arg heq
        cases heq

theorem read_entry {key : String} (h : startsWithDollar key = true) (value : Value) :
    read (.entry key value) = ofOperator key value (read value) := by
  rw [Value.entry, read, readFields, readFields, ofEntries, if_pos h]

theorem read_unary (function : UnaryFunction) (value : Value) :
    read (.entry function.name value) = ofUnary function (read value) := by
  rw [read_entry (by cases function <;> rfl), ofOperator]
  cases function <;> rfl

theorem read_binary (function : BinaryFunction) (left right : Value) :
    read (.entry function.name (.array [left, right]))
      = .binary function (read left) (read right) := by
  rw [read_entry (by cases function <;> rfl), read_array, ofOperator]
  cases function <;> rfl

theorem read_variadic (function : VariadicFunction) (args : List Value) :
    read (.entry function.name (.array args)) = .variadic function (args.map read) := by
  rw [read_entry (by cases function <;> rfl), read_array, ofOperator]
  cases function <;> rfl

theorem read_literal (value : Value) : read (.entry "$literal" value) = .constant value := by
  rw [read_entry rfl]
  rfl

/-! ### Constants -/

theorem needLiteral_eq_false_iff (items : List Value) :
    Value.needLiteral items = false ↔ ∀ v ∈ items, v.needsLiteral = false := by
  induction items with
  | nil => simp [Value.needLiteral]
  | cons item items ih => simp [Value.needLiteral, ih]

theorem fieldsNeedLiteral_eq_false_iff (fields : List (String × Value)) :
    Value.fieldsNeedLiteral fields = false
      ↔ ∀ field ∈ fields, startsWithDollar field.1 = false ∧ field.2.needsLiteral = false := by
  induction fields with
  | nil => simp [Value.fieldsNeedLiteral]
  | cons field fields ih => simp [Value.fieldsNeedLiteral, ih, and_assoc]

theorem eval_read_constant (v : Value) (h : v.needsLiteral = false) (env : Environment) :
    (read v).eval env = .ok v := by
  induction v using Value.induction with
  | null => rw [read, eval_constant] <;> nofun
  | bool b => rw [read, eval_constant] <;> nofun
  | number n => rw [read, eval_constant] <;> nofun
  | string s =>
    rw [Value.needsLiteral] at h
    rw [read, ofText_of_not_startsWithDollar h, eval_constant]
  | array items ih =>
    rw [Value.needsLiteral, needLiteral_eq_false_iff] at h
    have hitems : (items.map read).mapM (·.eval env) = .ok items := by
      rw [mapM_eq_ok_iff, List.forall₂_map_left_iff, List.forall₂_same]
      exact fun v hv => ih v hv (h v hv)
    rw [read_array, eval_array, hitems, map_ok]
  | object fields ih =>
    rw [Value.needsLiteral, fieldsNeedLiteral_eq_false_iff] at h
    have hfields : (fields.map fun field => (field.1, read field.2)).mapM
        (fun field => (field.1, ·) <$> field.2.eval env) = .ok fields := by
      rw [mapM_eq_ok_iff, List.forall₂_map_left_iff, List.forall₂_same]
      intro field hfield
      rw [ih field hfield (h field hfield).2, map_ok]
    rw [read_object fun field hfield => (h field hfield).1, eval_document, hfields, map_ok]

/-! ### Rendered expressions -/

theorem toValues_eq_map (es : List Expression) : toValues es = es.map toValue := by
  induction es with
  | nil => rfl
  | cons e es ih => rw [toValues, ih, List.map_cons]

theorem toFields_eq_map (fields : List (String × Expression)) :
    toFields fields = fields.map fun field => (field.1, field.2.toValue) := by
  induction fields with
  | nil => rfl
  | cons field fields ih => rw [toFields, ih, List.map_cons]

theorem ofOperator_ne_array (key : String) (raw : Value) (arg : Expression)
    (es : List Expression) : ofOperator key raw arg ≠ .array es := by
  rw [ofOperator]
  split
  · rw [ofUnary.eq_def]
    split <;> nofun
  · rw [ofBinary.eq_def]
    split <;> nofun
  · rw [ofVariadic.eq_def]
    split <;> nofun
  · split
    · nofun
    · split
      · rw [ofGetField.eq_def]
        split <;> nofun
      · split
        · rw [ofBinder.eq_def]
          split <;> nofun
        · split
          · rw [ofBinder.eq_def]
            split <;> nofun
          · nofun

/-- Only an array is read as an array. -/
theorem read_ne_array {v : Value} (h : ∀ items, v ≠ .array items) (es : List Expression) :
    read v ≠ .array es := by
  cases v with
  | array items => exact absurd rfl (h items)
  | string s =>
    rw [read, ofText]
    split
    · split <;> nofun
    · nofun
    · nofun
  | object fields =>
    rw [read, ofEntries.eq_def]
    split
    · split
      · exact ofOperator_ne_array _ _ _ es
      · nofun
    · nofun
  | _ =>
    rw [read] <;> nofun

/-- A function of one argument is read from its document. -/
theorem read_apply (function : UnaryFunction) (arg : Value) :
    read (function.apply arg) = .unary function (read arg) := by
  -- the text to trim is an argument by name; an array as an argument has another one around it
  by_cases htrim : function = .trim
  · subst htrim
    have hinput : read (.entry "input" arg) = .document [("input", read arg)] :=
      read_object (by simp [startsWithDollar])
    rw [UnaryFunction.apply, read_unary, hinput, ofUnary]
  · by_cases harray : ∃ items, arg = .array items
    · obtain ⟨items, rfl⟩ := harray
      rw [UnaryFunction.apply, read_unary, read_array, List.map_singleton, ofUnary]
      · exact htrim
      · exact htrim
    · have hother : ∀ items, arg ≠ .array items := fun items h => harray ⟨items, h⟩
      rw [UnaryFunction.apply, read_unary, ofUnary]
      · exact htrim
      · exact fun single => read_ne_array hother [single]
      · exact fun _ _ h => absurd h htrim
      · exact htrim
      · exact hother

/-- A name stands for itself as a text. -/
theorem read_name {name : String} (h : startsWithDollar name = false) :
    read (.string name) = .constant (.string name) := by
  rw [read, ofText_of_not_startsWithDollar h]

theorem read_getField {name : String} (h : startsWithDollar name = false) (input : Value) :
    read (.entry "$getField" (.object [("field", .string name), ("input", input)]))
      = .getField name (read input) := by
  rw [read_entry rfl, read_object (by simp [startsWithDollar])]
  simp only [List.map_cons, List.map_nil, read_name h]
  rfl

theorem read_filter {name : String} (h : startsWithDollar name = false) (input condition : Value) :
    read (.entry "$filter"
        (.object [("input", input), ("as", .string name), ("cond", condition)]))
      = .filter (read input) name (read condition) := by
  rw [read_entry rfl, read_object (by simp [startsWithDollar])]
  simp only [List.map_cons, List.map_nil, read_name h]
  rfl

theorem read_map {name : String} (h : startsWithDollar name = false) (input body : Value) :
    read (.entry "$map" (.object [("input", input), ("as", .string name), ("in", body)]))
      = .map (read input) name (read body) := by
  rw [read_entry rfl, read_object (by simp [startsWithDollar])]
  simp only [List.map_cons, List.map_nil, read_name h]
  rfl

/-- What is read from the documents of expressions has their values. -/
private theorem mapM_eval_read {es : List Expression} {env : Environment}
    (h : ∀ e ∈ es, (read e.toValue).eval env = e.eval env) :
    (es.map fun e => read e.toValue).mapM (·.eval env) = es.mapM (·.eval env) := by
  refine mapM_congr ?_
  rw [List.forall₂_map_left_iff, List.forall₂_same]
  exact h

theorem eval_read (e : Expression) (hw : e.wellFormed = true) (env : Environment) :
    (read e.toValue).eval env = e.eval env := by
  -- the environment varies, as the bodies of binders are evaluated in larger ones
  induction e using Expression.induction generalizing env with
  | constant value =>
    rw [toValue, literal]
    split
    · rw [read_literal]
    · next h => rw [eval_read_constant value (by simpa using h), eval_constant]
  | field scope path =>
    cases scope with
    | none =>
      rw [wellFormed_field, isOk_checkPath_iff] at hw
      rw [toValue, read, ofText_path hw.2.1]
    | some name =>
      rw [wellFormed_variableField, Bool.and_eq_true] at hw
      rw [toValue, read, ofText_variableField hw.1]
  | var name =>
    rw [wellFormed_var] at hw
    rw [toValue, read, ofText_variable hw]
  | unary function arg ih =>
    rw [toValue, read_apply, eval_unary, eval_unary, ih hw]
  | binary function left right ihl ihr =>
    rw [wellFormed, Bool.and_eq_true] at hw
    rw [toValue, read_binary, eval_binary, eval_binary, ihl hw.1]
    simp only [ihr hw.2]
  | variadic function args ih =>
    have hargs := ((wellFormed_variadic function args).mp hw).2
    rw [toValue, toValues_eq_map, read_variadic, List.map_map, eval_variadic, eval_variadic]
    exact congrArg (· >>= _) (mapM_eval_read fun e he => ih e he (hargs e he) env)
  | document fields ih =>
    obtain ⟨hnames, hfields⟩ := (wellFormed_document fields).mp hw
    have hdollar : ∀ field ∈ fields, startsWithDollar field.1 = false := fun field hfield =>
      ((isOk_checkFieldNames_iff.mp hnames).2 _ (List.mem_map_of_mem hfield)).2
    have hread : read (.object (fields.map fun field => (field.1, field.2.toValue)))
        = .document (fields.map fun field => (field.1, read field.2.toValue)) := by
      rw [read_object (List.forall_mem_map.mpr hdollar), List.map_map]
      rfl
    rw [toValue, toFields_eq_map, hread, eval_document, eval_document]
    refine congrArg _ (mapM_congr ?_)
    rw [List.forall₂_map_left_iff, List.forall₂_same]
    intro field hfield
    exact congrArg _ (ih field hfield (hfields field hfield) env)
  | array items ih =>
    have hitems := (wellFormed_array items).mp hw
    rw [toValue, toValues_eq_map, read_array, List.map_map, eval_array, eval_array]
    exact congrArg _ (mapM_eval_read fun e he => ih e he (hitems e he) env)
  | getField name input ih =>
    obtain ⟨⟨-, hname⟩, hinput⟩ := (wellFormed_getField name input).mp hw
    rw [toValue, read_getField hname, eval_getField, eval_getField, ih hinput]
  | filter input name condition ihi ihc =>
    obtain ⟨hname, hinput, hcondition⟩ := (wellFormed_filter input name condition).mp hw
    rw [toValue, read_filter (Text.startsWithDollar_of_isName hname), eval_filter, eval_filter,
      ihi hinput]
    simp only [ihc hcondition]
  | map input name body ihi ihb =>
    obtain ⟨hname, hinput, hbody⟩ := (wellFormed_map input name body).mp hw
    rw [toValue, read_map (Text.startsWithDollar_of_isName hname), eval_map, eval_map, ihi hinput]
    simp only [ihb hbody]

end Expression

end DocQuery
