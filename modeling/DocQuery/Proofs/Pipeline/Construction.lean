import DocQuery.Proofs.Pipeline.WellFormed

/-!
# Checked construction yields well-formed trees

A node that its function has built from well-formed parts is well formed, since it has passed the
very checks that well-formedness asks for.

## Main results

* `Expression.wellFormed_variadic?`, `Operation.wellFormed_bits?`, `Filter.wellFormed_and?`,
  `Stage.wellFormed_project?`, … — one for each function that builds nodes.
-/

namespace DocQuery

/-- If a function builds nothing but the given node, it is enough to know of the node that its check
has been passed. -/
private theorem gives_of_isOk {α : Type} {make : Except ArgumentError α} (node : α) {p : α → Prop}
    (hnode : Gives make (· = node)) (hp : make.isOk = true → p node) : Gives make p := by
  rintro a ha
  cases hnode a ha
  exact hp (ha ▸ isOk_ok node)

/-! ### Expressions -/

namespace Expression

variable {input : Expression}

theorem wellFormed_field? (path : String) : Gives (field? path) (·.wellFormed = true) :=
  gives_of_isOk _ (Gives.bind_any fun _ => .ok rfl) fun h => h

theorem wellFormed_variableField? (name path : String) :
    Gives (variableField? name path) (·.wellFormed = true) :=
  gives_of_isOk _ (Gives.bind_any fun _ => Gives.bind_any fun _ => .ok rfl) fun h => h

theorem wellFormed_variadic? (function : VariadicFunction) {args : List Expression}
    (h : ∀ e ∈ args, e.wellFormed = true) :
    Gives (variadic? function args) (·.wellFormed = true) := by
  refine gives_of_isOk (.variadic function args) (Gives.bind_any fun _ => .ok rfl) ?_
  intro hok
  rw [wellFormed, hok, (allWellFormed_iff args).mpr h, Bool.and_self]

theorem wellFormed_document? {fields : List (String × Expression)}
    (h : ∀ field ∈ fields, field.2.wellFormed = true) :
    Gives (document? fields) (·.wellFormed = true) := by
  refine gives_of_isOk (.document fields) (Gives.bind_any fun _ => .ok rfl) ?_
  intro hok
  rw [wellFormed, hok, (fieldsWellFormed_iff fields).mpr h, Bool.and_self]

theorem wellFormed_getField? (name : String) (h : input.wellFormed = true) :
    Gives (getField? name input) (·.wellFormed = true) := by
  refine gives_of_isOk (.getField name input)
    (Gives.bind_any fun _ => Gives.bind_any fun _ => .ok rfl) ?_
  intro hok
  rw [wellFormed, hok, h, Bool.and_self]

theorem wellFormed_filter? (name : String) {condition : Expression} (h : input.wellFormed = true)
    (h' : condition.wellFormed = true) :
    Gives (filter? input name condition) (·.wellFormed = true) := by
  refine gives_of_isOk (.filter input name condition) (Gives.bind_any fun _ => .ok rfl) ?_
  intro hok
  rw [wellFormed, hok, h, h', Bool.and_self, Bool.and_self]

theorem wellFormed_map? (name : String) {body : Expression} (h : input.wellFormed = true)
    (h' : body.wellFormed = true) : Gives (map? input name body) (·.wellFormed = true) := by
  refine gives_of_isOk (.map input name body) (Gives.bind_any fun _ => .ok rfl) ?_
  intro hok
  rw [wellFormed, hok, h, h', Bool.and_self, Bool.and_self]

end Expression

/-! ### Filters and operations -/

namespace Operation

theorem wellFormed_bits? (test : BitTest) (mask : Int64) :
    Gives (bits? test mask) (·.wellFormed = true) :=
  gives_of_isOk _ (Gives.bind_any fun _ => Gives.bind_any fun _ => .ok rfl) fun h => h

theorem wellFormed_regex? (pattern options : String) :
    Gives (regex? pattern options) (·.wellFormed = true) :=
  gives_of_isOk _ (Gives.bind_any fun _ => .ok rfl) fun h => h

theorem wellFormed_size? (size : Int64) : Gives (size? size) (·.wellFormed = true) :=
  gives_of_isOk _ (Gives.bind_any fun _ => .ok rfl) fun h => h

theorem wellFormed_type? (name : String) : Gives (type? name) (·.wellFormed = true) :=
  gives_of_isOk _ (Gives.bind_any fun _ => .ok rfl) fun h => h

theorem wellFormed_mod? (divisor remainder : Int64) :
    Gives (mod? divisor remainder) (·.wellFormed = true) :=
  gives_of_isOk _ (Gives.bind_any fun _ => .ok rfl) fun h => h

end Operation

namespace Filter

variable {args : List Filter}

theorem wellFormed_and? (h : ∀ f ∈ args, f.wellFormed = true) :
    Gives (and? args) (·.wellFormed = true) := by
  refine gives_of_isOk (.and args) (Gives.bind_any fun _ => .ok rfl) fun hok => ?_
  rw [wellFormed, hok, (allWellFormed_iff args).mpr h, Bool.and_self]

theorem wellFormed_or? (h : ∀ f ∈ args, f.wellFormed = true) :
    Gives (or? args) (·.wellFormed = true) := by
  refine gives_of_isOk (.or args) (Gives.bind_any fun _ => .ok rfl) fun hok => ?_
  rw [wellFormed, hok, (allWellFormed_iff args).mpr h, Bool.and_self]

end Filter

/-! ### Stages -/

namespace Stage

theorem wellFormed_project? {entries : List Projection}
    (h : ∀ entry ∈ entries, entry.wellFormed = true) :
    Gives (project? entries) (·.wellFormed = true) :=
  gives_of_isOk _ (Gives.bind_any fun _ => .ok rfl)
    fun hok => (wellFormed_project entries).mpr ⟨hok, h⟩

theorem wellFormed_addFields? {fields : List (String × Expression)}
    (h : ∀ field ∈ fields, (computedField? field.1 field.2).isOk = true ∧
      field.2.wellFormed = true) :
    Gives (addFields? fields) (·.wellFormed = true) :=
  gives_of_isOk _ (Gives.bind_any fun _ => Gives.bind_any fun _ => .ok rfl)
    fun hok => (wellFormed_addFields fields).mpr ⟨hok, h⟩

theorem wellFormed_group? {key : Expression} {accumulators : List (String × AccumulatorExpression)}
    (hkey : key.wellFormed = true) (h : ∀ a ∈ accumulators, a.2.arg.wellFormed = true) :
    Gives (group? key accumulators) (·.wellFormed = true) :=
  gives_of_isOk _ (Gives.bind_any fun _ => .ok rfl)
    fun hok => (wellFormed_group key accumulators).mpr ⟨hok, hkey, h⟩

theorem wellFormed_sort? {keys : List SortKey}
    (h : ∀ key ∈ keys, (SortKey.ofPath? key.path key.direction).isOk = true) :
    Gives (sort? keys) (·.wellFormed = true) := by
  refine gives_of_isOk (.sort keys)
    (Gives.bind_any fun _ => Gives.bind_any fun _ => .ok rfl) fun hok => ?_
  rw [wellFormed, hok, List.all_eq_true.mpr h, Bool.and_self]

theorem wellFormed_skip? (n : Int64) : Gives (skip? n) (·.wellFormed = true) :=
  gives_of_isOk _ (Gives.bind_any fun _ => .ok rfl) fun h => h

theorem wellFormed_limit? (n : Int64) : Gives (limit? n) (·.wellFormed = true) :=
  gives_of_isOk _ (Gives.bind_any fun _ => .ok rfl) fun h => h

theorem wellFormed_unwind? (path : String) (keepEmpty : Bool) :
    Gives (unwind? path keepEmpty) (·.wellFormed = true) :=
  gives_of_isOk _ (Gives.bind_any fun _ => .ok rfl) fun h => h

theorem wellFormed_count? (name : String) : Gives (count? name) (·.wellFormed = true) :=
  gives_of_isOk _ (Gives.bind_any fun _ => Gives.bind_any fun _ => Gives.bind_any fun _ => .ok rfl)
    fun h => h

end Stage

end DocQuery
