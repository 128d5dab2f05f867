import DocQuery.Proofs.Evaluation.Expression
import DocQuery.Proofs.Evaluation.Filter
import DocQuery.Proofs.Pipeline.Induction
import DocQuery.Proofs.Pipeline.ReadSet
import DocQuery.Proofs.Variables.Scoped

/-!
# A filter depends on what it reads

Documents that have the same values at the paths in the read set of a filter have the same outcome.
An expression whose variables are bound inside it refers to the document by the paths that are
counted only.  A test at a path is about the values there, whatever it does with them, so what is
tested in the elements of an array needs no document at all.

A test of the array element at hand is meant for the inside of a test of array elements.  Elsewhere
it is about the document itself, and no path is read.

## Main definitions

* `Value.AgreeAt` — documents with the same values at a path.
* `Filter.testsBareElement` — the filter tests the element at hand, outside of all tests of elements.

## Main results

* `Expression.Scoped.eval_congr` — an expression has one value for documents that it does not tell
  apart.
* `Filter.holds_congr_of_readSet` — **a filter has one outcome for documents with the same values at
  the paths that it reads.**
-/

namespace DocQuery

/-- The documents have the same values at a path, as conditions read it and as expressions do. -/
def Value.AgreeAt (d d' : Value) (path : String) : Prop :=
  d.reached (pathSegments path) = d'.reached (pathSegments path) ∧ d.atPath path = d'.atPath path

/-! ### Expressions -/

namespace Expression

variable {d d' : Value}

/-- A name that is bound has the same value whatever the document is. -/
theorem get_congr {bindings : List (String × Value)} {name : String}
    (h : name ∈ bindings.map (·.1)) :
    Environment.get ⟨d, bindings⟩ name = Environment.get ⟨d', bindings⟩ name := by
  obtain ⟨binding, hbinding, hname⟩ := List.mem_map.mp h
  have hbound : (bindings.lookup name).isSome = true :=
    List.lookup_isSome_iff.mpr ⟨binding, hbinding, beq_iff_eq.mpr hname.symm⟩
  obtain ⟨value, hvalue⟩ := Option.isSome_iff_exists.mp hbound
  rw [Environment.get, Environment.get, hvalue]

/-- An expression whose variables are bound has one value for two documents that have the same
values at the paths that it reads. -/
theorem Scoped.eval_congr {names : List String} {e : Expression} (h : e.Scoped names)
    {bindings : List (String × Value)} (hnames : bindings.map (·.1) = names)
    (hreads : ∀ path ∈ e.reads none, d.AgreeAt d' path) :
    e.eval ⟨d, bindings⟩ = e.eval ⟨d', bindings⟩ := by
  -- an item is bound to the same name in both environments, and the names in scope are those bound
  induction h generalizing bindings with
  | constant value => rfl
  | documentField path =>
    have hpath := (hreads path List.mem_cons_self).2
    exact congrArg Except.ok hpath
  | @variableField _ name path hname =>
    have hget : Environment.get ⟨d, bindings⟩ name = Environment.get ⟨d', bindings⟩ name :=
      get_congr (hnames ▸ hname)
    exact congrArg (· >>= fun base => pure (base.atPath path)) hget
  | var hname => exact get_congr (hnames ▸ hname)
  | unary function _ ih => rw [eval_unary, eval_unary, ih hnames hreads]
  | binary function _ _ ihleft ihright =>
    obtain ⟨hleft, hright⟩ := List.forall_mem_append.mp hreads
    rw [eval_binary, eval_binary, ihleft hnames hleft, ihright hnames hright]
  | variadic function _ ih =>
    rw [reads, readsOfAll_eq, List.forall_mem_flatMap] at hreads
    rw [eval_variadic, eval_variadic,
      mapM_congr (List.forall₂_same.mpr fun e he => ih e he hnames (hreads e he))]
  | document _ ih =>
    rw [reads, readsOfFields_eq, List.forall_mem_flatMap] at hreads
    rw [eval_document, eval_document,
      mapM_congr (List.forall₂_same.mpr fun field hfield => congrArg ((field.1, ·) <$> ·)
        (ih field hfield hnames (hreads field hfield)))]
  | array _ ih =>
    rw [reads, readsOfAll_eq, List.forall_mem_flatMap] at hreads
    rw [eval_array, eval_array,
      mapM_congr (List.forall₂_same.mpr fun e he => ih e he hnames (hreads e he))]
  | getField name _ ih => rw [eval_getField, eval_getField, ih hnames hreads]
  | @filter _ input condition name _ _ ihinput ihcondition =>
    obtain ⟨hinput, hcondition⟩ := List.forall_mem_append.mp hreads
    have hitem (item : Value) : condition.eval ⟨d, (name, item) :: bindings⟩
        = condition.eval ⟨d', (name, item) :: bindings⟩ :=
      ihcondition (congrArg (name :: ·) hnames) hcondition
    rw [eval_filter, eval_filter, ihinput hnames hinput]
    simp only [Environment.bind, hitem]
  | @map _ input body name _ _ ihinput ihbody =>
    obtain ⟨hinput, hbody⟩ := List.forall_mem_append.mp hreads
    have hitem (item : Value) : body.eval ⟨d, (name, item) :: bindings⟩
        = body.eval ⟨d', (name, item) :: bindings⟩ :=
      ihbody (congrArg (name :: ·) hnames) hbody
    rw [eval_map, eval_map, ihinput hnames hinput]
    simp only [Environment.bind, hitem]

end Expression

/-! ### Filters -/

mutual

/-- The filter tests the array element at hand.  What is inside of tests of array elements does not
count. -/
def Filter.testsBareElement : Filter → Bool
  | .field .element _ => true
  | .field (.path _) _ => false
  | .and args => Filter.someTestsBareElement args
  | .or args => Filter.someTestsBareElement args
  | .nor args => Filter.someTestsBareElement args
  | .not filter => filter.testsBareElement
  | .expr _ => false

/-- Some filter tests the array element at hand. -/
def Filter.someTestsBareElement : List Filter → Bool
  | [] => false
  | f :: fs => f.testsBareElement || Filter.someTestsBareElement fs

end

namespace Filter

theorem someTestsBareElement_eq_false_iff {fs : List Filter} :
    Filter.someTestsBareElement fs = false ↔ ∀ f ∈ fs, f.testsBareElement = false := by
  induction fs with
  | nil => simp [Filter.someTestsBareElement]
  | cons f fs ih => rw [Filter.someTestsBareElement, Bool.or_eq_false_iff, ih, List.forall_mem_cons]

/-- The filter tests documents, not elements, and all variables of what it computes are bound
there. -/
structure IsClosed (f : Filter) : Prop where
  testsBareElement : f.testsBareElement = false
  expressions : ∀ e ∈ f.expressions, e.Scoped []

variable {d d' : Value}

/-- Operands that have one outcome each have one outcome together. -/
private theorem decided_congr_of_reads {stop : Bool} {args : List Filter}
    (ih : ∀ f ∈ args, f.IsClosed → (∀ path ∈ f.reads none, d.AgreeAt d' path) →
      f.holds d = f.holds d')
    (htests : Filter.someTestsBareElement args = false)
    (hexpressions : ∀ e ∈ Filter.expressionsOfAll args, e.Scoped [])
    (hreads : ∀ path ∈ Filter.readsOfAll none args, d.AgreeAt d' path) :
    decided stop args d = decided stop args d' := by
  rw [someTestsBareElement_eq_false_iff] at htests
  rw [forall_mem_expressionsOfAll] at hexpressions
  rw [Filter.readsOfAll_eq, List.forall_mem_flatMap] at hreads
  have hholds : ∀ f ∈ args, f.holds d = f.holds d' :=
    fun f hf => ih f hf ⟨htests f hf, hexpressions f hf⟩ (hreads f hf)
  clear ih htests hexpressions hreads
  induction args with
  | nil => rw [decided_nil, decided_nil]
  | cons f fs ih =>
    obtain ⟨hfirst, hrest⟩ := List.forall_mem_cons.mp hholds
    rw [decided_cons, decided_cons, hfirst, ih hrest]

theorem holds_congr_of_reads (f : Filter) : f.IsClosed →
    (∀ path ∈ f.reads none, d.AgreeAt d' path) → f.holds d = f.holds d' := by
  revert f
  -- what an operation tests is known once the values at its path are, so nothing is to be shown of
  -- operations
  refine And.left (b := Operation → True) ?_
  apply Filter.induction
  case elemMatch => exact fun _ _ => trivial
  case negation => exact fun _ _ => trivial
  case plain => exact fun _ _ _ => trivial
  case field =>
    intro target operation _ hclosed hreads
    cases target with
    | element => cases hclosed.testsBareElement
    | path path =>
      rw [reads_field_path] at hreads
      rw [holds_field, holds_field, Target.values, Target.values,
        (hreads path List.mem_cons_self).1]
  case and =>
    intro args ih hclosed hreads
    rw [holds_and, holds_and,
      decided_congr_of_reads ih hclosed.testsBareElement hclosed.expressions hreads]
  case or =>
    intro args ih hclosed hreads
    rw [holds_or, holds_or,
      decided_congr_of_reads ih hclosed.testsBareElement hclosed.expressions hreads]
  case nor =>
    intro args ih hclosed hreads
    rw [holds_nor, holds_nor,
      decided_congr_of_reads ih hclosed.testsBareElement hclosed.expressions hreads]
  case not =>
    intro f ih hclosed hreads
    rw [holds_not, holds_not, ih ⟨hclosed.testsBareElement, hclosed.expressions⟩ hreads]
  case expr =>
    intro e hclosed hreads
    have hscoped := hclosed.expressions e List.mem_cons_self
    have heval : e.evalOn d = e.evalOn d' :=
      hscoped.eval_congr rfl hreads
    rw [holds, holds, heval]

/-- A filter that tests the element at hand only inside of tests of array elements, and refers to no
variable that is not bound by a `filter` or `map` around it, has one outcome for two documents that
have the same values at the paths in its read set.  The outcome may be an error. -/
theorem holds_congr_of_readSet {f : Filter} (htests : f.testsBareElement = false)
    (hscoped : ∀ e ∈ f.expressions, e.Scoped [])
    (hreads : ∀ path ∈ Pipeline.readSet ⟨[.select f]⟩, d.AgreeAt d' path) :
    f.holds d = f.holds d' := by
  refine holds_congr_of_reads f ⟨htests, hscoped⟩ fun path hpath => hreads path ?_
  exact Pipeline.mem_readSet.mpr ⟨_, List.mem_cons_self, hpath⟩

/-- A test of array elements and items that are bound one by one, for two documents that differ in a
field beside those that are read. -/
theorem holds_congr_of_readSet_items :
    let document (n : Int64) : Value :=
      .object [("a", .array [.int 1, .int 2]), ("b", .string "x"), ("c", .int n)]
    let doubled : Expression :=
      .map (.field none "a") "n" (.variadic .multiply [.var "n", .constant (.int 2)])
    let f : Filter := .and [.field (.path "a") (.elemMatch (.field .element (.compare .gt (.int 1)))),
      .not (.field (.path "b") (.regex "y" "")), .expr (.binary .isIn (.constant (.int 4)) doubled)]
    f.testsBareElement = false ∧ (∀ e ∈ f.expressions, e.Scoped []) ∧
      (∀ path ∈ Pipeline.readSet ⟨[.select f]⟩, (document 3).AgreeAt (document 4) path) ∧
      f.holds (document 3) = f.holds (document 4) := by
  intro document doubled f
  have htests : f.testsBareElement = false := rfl
  have hdoubled : doubled.Scoped [] :=
    .map (.documentField "a") (.variadic _ (List.forall_mem_cons.mpr
      ⟨.var List.mem_cons_self, List.forall_mem_singleton.mpr (.constant _)⟩))
  have hscoped : ∀ e ∈ f.expressions, e.Scoped [] :=
    List.forall_mem_singleton.mpr (.binary _ (.constant _) hdoubled)
  have hreadSet : Pipeline.readSet ⟨[.select f]⟩ = ["a", "b"] := by decide +kernel
  have hreads : ∀ path ∈ Pipeline.readSet ⟨[.select f]⟩,
      (document 3).AgreeAt (document 4) path := by
    rw [hreadSet]
    exact List.forall_mem_cons.mpr ⟨⟨rfl, rfl⟩, List.forall_mem_singleton.mpr ⟨rfl, rfl⟩⟩
  exact ⟨htests, hscoped, hreads, holds_congr_of_readSet htests hscoped hreads⟩

/-- A test of the element at hand, of no array element but of the document, tells documents apart
without reading a path. -/
theorem holds_element_ne :
    let f : Filter := .field .element (.compare .eq (.object [("a", .int 1)]))
    Pipeline.readSet ⟨[.select f]⟩ = [] ∧ f.expressions = [] ∧
      f.holds (.object [("a", .int 1)]) = .ok true ∧
      f.holds (.object [("a", .int 2)]) = .ok false :=
  ⟨rfl, rfl, rfl, rfl⟩

end Filter

end DocQuery
