import DocQuery.Lowering.Statement
import DocQuery.Proofs.Outcome
import DocQuery.Proofs.Pipeline.Induction
import DocQuery.Proofs.Pipeline.WellFormed
import DocQuery.Proofs.Rendering.Expression

/-!
# Numbers and booleans in rendered projections

In the document of a projection a bare number or boolean says that a path is kept or dropped, also
where it stands inside another document.  A constant that is the whole value of an entry is wrapped
in `$literal` for that reason.  The constants inside a computed document are not: they are written
as everywhere else, and so one of them can be taken for a flag.

## Main definitions

* `Value.ShowsFlag` — a bare number or boolean stands below plain keys of a value.
* `Expression.ShowsFlag` — a constant that is one, or has one in it, stands in a computed document.

## Main results

* `Expression.showsFlag_toValue_iff` — the flags in the document of an expression are its constants.
* `Stage.showsFlag_project_iff` — **the flags in a projection are its entries that keep or drop a
  path, and the constants in the documents that it computes.**
-/

namespace DocQuery

/-! ### Flags in a value -/

/-- The value has a bare number or boolean below the keys, all of which are plain. -/
inductive Value.ShowsFlag : Value → List String → Value → Prop where
  | bool (b : Bool) : ShowsFlag (.bool b) [] (.bool b)
  | number (n : Number) : ShowsFlag (.number n) [] (.number n)
  | object {fields : List (String × Value)} {field : String × Value} {keys : List String}
    {flag : Value} (hmem : field ∈ fields) (hplain : startsWithDollar field.1 = false)
    (h : ShowsFlag field.2 keys flag) : ShowsFlag (.object fields) (field.1 :: keys) flag

namespace Value

variable {keys : List String} {flag : Value}

theorem showsFlag_number_iff {n : Number} :
    (number n).ShowsFlag keys flag ↔ keys = [] ∧ flag = .number n := by
  constructor
  · rintro ⟨⟩
    exact ⟨rfl, rfl⟩
  · rintro ⟨rfl, rfl⟩
    exact .number n

theorem showsFlag_object_iff {fields : List (String × Value)} :
    (object fields).ShowsFlag keys flag
      ↔ ∃ field ∈ fields, startsWithDollar field.1 = false ∧
        ∃ rest, keys = field.1 :: rest ∧ field.2.ShowsFlag rest flag := by
  constructor
  · rintro (_ | _ | ⟨hmem, hplain, h⟩)
    exact ⟨_, hmem, hplain, _, rfl, h⟩
  · rintro ⟨field, hmem, hplain, rest, rfl, h⟩
    exact .object hmem hplain h

theorem not_showsFlag_string (s : String) : ¬(string s).ShowsFlag keys flag := nofun

theorem not_showsFlag_array (items : List Value) : ¬(array items).ShowsFlag keys flag := nofun

/-- What is below an operator is no flag. -/
theorem not_showsFlag_entry {key : String} (h : startsWithDollar key = true) (v : Value) :
    ¬(entry key v).ShowsFlag keys flag := by
  rw [entry, showsFlag_object_iff]
  rintro ⟨field, hmem, hplain, -⟩
  cases List.mem_singleton.mp hmem
  rw [h] at hplain
  cases hplain

end Value

/-! ### Flags in an expression -/

/-- The expression is a constant with a number or boolean below the keys, or a document with such a
constant in it. -/
inductive Expression.ShowsFlag : Expression → List String → Value → Prop where
  | constant {v flag : Value} {keys : List String} (hbare : v.needsLiteral = false)
    (h : v.ShowsFlag keys flag) : ShowsFlag (.constant v) keys flag
  | document {fields : List (String × Expression)} {field : String × Expression}
    {keys : List String} {flag : Value} (hmem : field ∈ fields)
    (hplain : startsWithDollar field.1 = false) (h : ShowsFlag field.2 keys flag) :
    ShowsFlag (.document fields) (field.1 :: keys) flag

namespace Expression

variable {keys : List String} {flag : Value}

theorem showsFlag_document_iff {fields : List (String × Expression)} :
    (document fields).ShowsFlag keys flag
      ↔ ∃ field ∈ fields, startsWithDollar field.1 = false ∧
        ∃ rest, keys = field.1 :: rest ∧ field.2.ShowsFlag rest flag := by
  constructor
  · rintro (_ | ⟨hmem, hplain, h⟩)
    exact ⟨_, hmem, hplain, _, rfl, h⟩
  · rintro ⟨field, hmem, hplain, rest, rfl, h⟩
    exact .document hmem hplain h

theorem showsFlag_literal_iff {v : Value} :
    (literal v).ShowsFlag keys flag ↔ (constant v).ShowsFlag keys flag := by
  rw [literal]
  split
  · next hneeds =>
    refine iff_of_false (Value.not_showsFlag_entry rfl v) ?_
    rintro ⟨hbare, -⟩
    rw [hneeds] at hbare
    cases hbare
  · next hneeds =>
    refine ⟨.constant (Bool.eq_false_iff.mpr hneeds), ?_⟩
    rintro ⟨-, h⟩
    exact h

theorem not_showsFlag_apply (function : UnaryFunction) (arg : Value) :
    ¬(function.apply arg).ShowsFlag keys flag := by
  have hname : startsWithDollar function.name = true := by cases function <;> rfl
  rw [UnaryFunction.apply.eq_def]
  split <;> exact Value.not_showsFlag_entry hname _

/-- An expression shows no flag if it is neither a constant nor a document. -/
theorem not_showsFlag {e : Expression} (hconstant : ∀ v, e ≠ .constant v)
    (hdocument : ∀ fields, e ≠ .document fields) : ¬e.ShowsFlag keys flag := by
  rintro (_ | _)
  · exact hconstant _ rfl
  · exact hdocument _ rfl

/-- Every other expression is written as a text, as an array or below an operator. -/
theorem not_showsFlag_toValue {e : Expression} (hconstant : ∀ v, e ≠ .constant v)
    (hdocument : ∀ fields, e ≠ .document fields) : ¬e.toValue.ShowsFlag keys flag := by
  cases e with
  | constant v => exact absurd rfl (hconstant v)
  | document fields => exact absurd rfl (hdocument fields)
  | field scope path => cases scope <;> exact Value.not_showsFlag_string _
  | var name => exact Value.not_showsFlag_string _
  | array items => exact Value.not_showsFlag_array _
  | unary function arg => exact not_showsFlag_apply function arg.toValue
  | binary function left right => exact Value.not_showsFlag_entry (by cases function <;> rfl) _
  | variadic function args => exact Value.not_showsFlag_entry (by cases function <;> rfl) _
  | getField name input => exact Value.not_showsFlag_entry rfl _
  | filter input name condition => exact Value.not_showsFlag_entry rfl _
  | map input name body => exact Value.not_showsFlag_entry rfl _

/-- The flags in the document of an expression are its constants, as far as only documents are around
them. -/
theorem showsFlag_toValue_iff {e : Expression} :
    e.toValue.ShowsFlag keys flag ↔ e.ShowsFlag keys flag := by
  induction e using Expression.induction generalizing keys with
  | constant v => rw [toValue, showsFlag_literal_iff]
  | document fields ih =>
    rw [toValue, toFields_eq_map, Value.showsFlag_object_iff, showsFlag_document_iff]
    constructor
    · rintro ⟨_, hmem, hplain, rest, hkeys, h⟩
      obtain ⟨field, hfield, rfl⟩ := List.mem_map.mp hmem
      exact ⟨field, hfield, hplain, rest, hkeys, (ih field hfield).mp h⟩
    · rintro ⟨field, hfield, hplain, rest, hkeys, h⟩
      exact ⟨_, List.mem_map_of_mem hfield, hplain, rest, hkeys, (ih field hfield).mpr h⟩
  | _ =>
    refine iff_of_false (not_showsFlag_toValue ?_ ?_) (not_showsFlag ?_ ?_) <;> rintro _ ⟨⟩

end Expression

/-! ### Flags in a projection -/

/-- A flag in what is computed at a path is a constant in a document. -/
theorem Projection.showsFlag_compute_iff {path : String} {e : Expression} {keys : List String}
    {flag : Value} : (compute path e).toValue.ShowsFlag keys flag
      ↔ (∃ fields, e = .document fields) ∧ e.ShowsFlag keys flag := by
  by_cases hconstant : ∃ v, e = .constant v
  · obtain ⟨v, rfl⟩ := hconstant
    rw [toValue]
    refine iff_of_false (Value.not_showsFlag_entry rfl v) ?_
    rintro ⟨⟨_, h⟩, -⟩
    cases h
  · rw [toValue, Expression.showsFlag_toValue_iff]
    · refine ⟨fun h => ⟨?_, h⟩, And.right⟩
      cases h with
      | constant _ _ => exact absurd ⟨_, rfl⟩ hconstant
      | document _ _ _ => exact ⟨_, rfl⟩
    · exact fun v hv => hconstant ⟨v, hv⟩

/-- The path of an entry is a plain key. -/
theorem startsWithDollar_of_mem {entries : List Projection} {entry : Projection}
    (hok : (Stage.project? entries).isOk = true) (hmem : entry ∈ entries) :
    startsWithDollar entry.path = false :=
  (isOk_checkPath_iff.mp ((Stage.isOk_project?_iff.mp hok).2.1 entry hmem)).2.1

/-- A flag in the document of a projection is an entry that keeps or drops its path, or a constant in
a document that is computed at a path. -/
theorem Stage.showsFlag_project_iff {entries : List Projection} {stage : Stage}
    (h : Stage.project? entries = .ok stage) :
    ∃ payload, stage.toValue = .entry "$project" payload ∧
      ∀ keys flag, payload.ShowsFlag keys flag
        ↔ (∃ path, .keep path ∈ entries ∧ keys = [path] ∧ flag = .int 1) ∨
          (∃ path, .drop path ∈ entries ∧ keys = [path] ∧ flag = .int 0) ∨
          ∃ path fields rest, .compute path (.document fields) ∈ entries ∧ keys = path :: rest ∧
            (Expression.document fields).ShowsFlag rest flag := by
  have hok : (Stage.project? entries).isOk = true := by rw [h, isOk_ok]
  obtain ⟨-, -, h⟩ := bind_eq_ok_iff.mp h
  cases h
  refine ⟨_, rfl, fun keys flag => ?_⟩
  rw [Value.showsFlag_object_iff]
  constructor
  · rintro ⟨_, hmem, -, rest, rfl, hflag⟩
    obtain ⟨entry, hentry, rfl⟩ := List.mem_map.mp hmem
    cases entry with
    | keep path =>
      obtain ⟨rfl, rfl⟩ := Value.showsFlag_number_iff.mp hflag
      exact .inl ⟨path, hentry, rfl, rfl⟩
    | drop path =>
      obtain ⟨rfl, rfl⟩ := Value.showsFlag_number_iff.mp hflag
      exact .inr (.inl ⟨path, hentry, rfl, rfl⟩)
    | compute path e =>
      obtain ⟨⟨fields, rfl⟩, hflag⟩ := Projection.showsFlag_compute_iff.mp hflag
      exact .inr (.inr ⟨path, fields, rest, hentry, rfl, hflag⟩)
  · have hshown {entry : Projection} {rest : List String} (hentry : entry ∈ entries)
        (hflag : entry.toValue.ShowsFlag rest flag) :
        ∃ field ∈ entries.map fun entry => (entry.path, entry.toValue),
          startsWithDollar field.1 = false ∧
            ∃ others, entry.path :: rest = field.1 :: others ∧ field.2.ShowsFlag others flag :=
      ⟨_, List.mem_map_of_mem hentry, startsWithDollar_of_mem hok hentry, rest, rfl, hflag⟩
    rintro (⟨path, hentry, rfl, rfl⟩ | ⟨path, hentry, rfl, rfl⟩ |
      ⟨path, fields, rest, hentry, rfl, hflag⟩)
    · exact hshown hentry (.number _)
    · exact hshown hentry (.number _)
    · exact hshown hentry (Projection.showsFlag_compute_iff.mpr ⟨⟨fields, rfl⟩, hflag⟩)

/-- A constant at a path is wrapped, one in a document at a path is not. -/
theorem Stage.showsFlag_project_items :
    let entries : List Projection := [.drop "_id", .compute "a" (.constant (.int 1)),
      .compute "b" (.document [("c", .constant (.bool true)), ("d", .field none "x")])]
    ∃ payload, (Stage.project entries).toValue = .entry "$project" payload ∧
      payload.ShowsFlag ["_id"] (.int 0) ∧ payload.ShowsFlag ["b", "c"] (.bool true) ∧
      ∀ rest flag, ¬payload.ShowsFlag ("a" :: rest) flag := by
  intro entries
  have hproject : Stage.project? entries = .ok (.project entries) := rfl
  obtain ⟨payload, hpayload, hflags⟩ := showsFlag_project_iff hproject
  refine ⟨payload, hpayload, ?id, ?document, ?constant⟩
  case id => exact (hflags _ _).mpr (.inr (.inl ⟨"_id", List.mem_cons_self, rfl, rfl⟩))
  case document =>
    have hmem : Projection.compute "b"
        (.document [("c", .constant (.bool true)), ("d", .field none "x")]) ∈ entries :=
      List.mem_cons_of_mem _ (List.mem_cons_of_mem _ List.mem_cons_self)
    refine (hflags _ _).mpr (.inr (.inr ⟨"b", _, ["c"], hmem, rfl, ?_⟩))
    exact .document List.mem_cons_self rfl (.constant rfl (.bool true))
  case constant =>
    -- the entry at the path is neither kept nor dropped, nor is a document computed there
    intro rest flag hflag
    obtain ⟨path, hmem, -⟩ | ⟨path, hmem, hkeys, -⟩ | ⟨path, fields, _, hmem, hkeys, -⟩ :=
      (hflags _ _).mp hflag
    · simp [entries] at hmem
    · cases hkeys
      simp [entries] at hmem
    · cases hkeys
      simp [entries] at hmem

/-- A one in a computed document stands bare in the projection of a query, as if its path were
kept. -/
theorem Projection.showsFlag_of_document :
    let value : Expression := .document [("b", .constant (.int 1)), ("c", .field none "x")]
    lowerStatement .empty (.output (.object
        [("a", .object [("b", .integer 1), ("c", .access .root (.key "x"))])]))
      = .ok (.project [.drop "_id", .compute "a" value]) ∧
    (compute "a" value).toValue = .object [("b", .int 1), ("c", .string "$x")] ∧
    (compute "a" value).toValue.ShowsFlag ["b"] (.int 1) :=
  ⟨rfl, rfl, .object List.mem_cons_self rfl (.number _)⟩

end DocQuery
