import DocQuery.Proofs.Evaluation.Filter
import DocQuery.Proofs.Rendering.Expression

/-!
# Reading filters back

A document is read as a filter the way a server reads it.  A key with a dollar sign is a combination
or an operator for the element at hand, any other key is a path; below a path stands an operation
if there is a key with a dollar sign, and otherwise a value to be equal to.  Several entries are a
conjunction of tests.  What was rendered from a filter is read back as one with the same outcome:
the conjunctions written as one document, the negations written below a path and the equalities
written as bare values are told apart from everything else.

## Main definitions

* `Reading` — what a value is read as, in each place that it can stand in.
* `Operation.ofOperator`, `Filter.ofEntries` — the readings of operators and of objects.
* `Value.reading` — the readings of a value.

## Main results

* `Filter.holds_reading`, `Operation.holds_reading` — what is rendered is read as a filter or an
  operation with its outcome.
-/

namespace DocQuery

/-! ### The reader -/

/-- A value together with what it is read as: a filter, a list of filters, an operation. -/
structure Reading where
  raw : Value
  filter : Filter
  filters : List Filter
  operation : Operation

/-- The text that a value is. -/
def Value.text : Value → String
  | .string s => s
  | _ => ""

namespace Operation

/-- The reading of an operator whose argument is a plain value. -/
def ofArgument (key : String) : Value → Operation
  | .array items =>
    if key = "$in" then .isIn items
    else if key = "$nin" then .notIn items
    else match items with
      | [.number (.int divisor), .number (.int remainder)] => .mod divisor remainder
      | _ => .isIn items
  | .bool expected => .exists expected
  | .string s => if key = "$regex" then .regex s "" else .type s
  | .number (.int n) =>
    match BitTest.ofName? key with
    | some test => .bits test n
    | none => .size n
  | value => .compare .eq value

/-- The reading of an operator with the readings of its argument. -/
def ofOperator (key : String) (r : Reading) : Operation :=
  match Comparison.ofName? key with
  | some comparison => .compare comparison r.raw
  | none =>
    if key = "$elemMatch" then .elemMatch r.filter
    else if key = "$not" then .not r.operation
    else ofArgument key r.raw

/-- The reading of an object as an operation.  Two entries are a pattern and its options. -/
def ofEntries : List (String × Reading) → Operation
  | [(key, r)] => ofOperator key r
  | [(_, pattern), (_, options)] => .regex pattern.raw.text options.raw.text
  | _ => .exists true

end Operation

namespace Filter

/-- The reading of one entry as a test. -/
def testOf (key : String) (r : Reading) : Filter :=
  if startsWithDollar key then .field .element (.ofOperator key r)
  else .field (.path key) (if r.raw.looksLikeOperation then r.operation else .compare .eq r.raw)

/-- The readings of entries as tests.  Options belong to the pattern before them. -/
def testsOf : List (String × Reading) → List Filter
  | [] => []
  | [(key, r)] => [testOf key r]
  | (key, r) :: (next, options) :: rest =>
    if next = "$options" then
      .field .element (.regex r.raw.text options.raw.text) :: testsOf rest
    else
      testOf key r :: testsOf ((next, options) :: rest)

/-- The reading of an object as a filter. -/
def ofEntries (entries : List (String × Reading)) : Filter :=
  match entries with
  | [(key, r)] =>
    if key = "$and" then .and r.filters
    else if key = "$or" then .or r.filters
    else if key = "$nor" then .nor r.filters
    else if key = "$expr" then .expr (.read r.raw)
    else testOf key r
  | entries => .and (testsOf entries)

end Filter

mutual

/-- The readings of a value.  As what is never rendered it can be read in any way. -/
def Value.reading : Value → Reading
  | .object fields =>
    ⟨.object fields, .ofEntries (readings fields), [], .ofEntries (readings fields)⟩
  | .array items => ⟨.array items, .and [], filterReadings items, .exists true⟩
  | value => ⟨value, .and [], [], .exists true⟩

/-- The values read as filters. -/
def Value.filterReadings : List Value → List Filter
  | [] => []
  | item :: items => item.reading.filter :: filterReadings items

/-- The entries with the readings of their values. -/
def Value.readings : List (String × Value) → List (String × Reading)
  | [] => []
  | (key, value) :: fields => (key, value.reading) :: readings fields

end

@[simp] theorem Value.reading_raw (v : Value) : v.reading.raw = v := by
  cases v <;> rfl

theorem Value.filterReadings_eq_map (items : List Value) :
    filterReadings items = items.map (·.reading.filter) := by
  induction items with
  | nil => rfl
  | cons item items ih => rw [filterReadings, ih, List.map_cons]

theorem Value.readings_eq_map (fields : List (String × Value)) :
    readings fields = fields.map fun field => (field.1, field.2.reading) := by
  induction fields with
  | nil => rfl
  | cons field fields ih => rw [readings, ih, List.map_cons]

theorem Value.reading_object (fields : List (String × Value)) :
    (Value.object fields).reading
      = ⟨.object fields, .ofEntries (readings fields), [], .ofEntries (readings fields)⟩ := by
  rw [reading]

/-! ### Operators -/

/-- The keys that make an object a filter other than a conjunction of tests. -/
def combinationKeys : List String :=
  ["$and", "$or", "$nor", "$expr"]

/-- A key that stands for an operation and for nothing else. -/
structure IsOperator (key : String) : Prop where
  startsWithDollar : startsWithDollar key = true
  ne_options : key ≠ "$options"
  not_combination : key ∉ combinationKeys

instance (key : String) : Decidable (IsOperator key) :=
  decidable_of_iff
    (DocQuery.startsWithDollar key = true ∧ key ≠ "$options" ∧ key ∉ combinationKeys)
    ⟨fun ⟨h, h', h''⟩ => ⟨h, h', h''⟩, fun ⟨h, h', h''⟩ => ⟨h, h', h''⟩⟩

namespace Operation

/-- An operation is written as one operator, or as a pattern with options. -/
theorem toValue_cases (operation : Operation) :
    (∃ key v, IsOperator key ∧ operation.toValue = .entry key v) ∨
    ∃ pattern options, operation = .regex pattern options ∧
      operation.toValue
        = .object [("$regex", .string pattern), ("$options", .string options)] := by
  cases operation with
  | compare comparison v =>
    refine .inl ⟨_, _, ?_, rfl⟩
    cases comparison <;> decide
  | bits test mask =>
    refine .inl ⟨_, _, ?_, rfl⟩
    cases test <;> decide
  | regex pattern options =>
    -- options are written only if there are some
    by_cases h : options = ""
    · subst h
      exact .inl ⟨"$regex", .string pattern, by decide, rfl⟩
    · exact .inr ⟨pattern, options, rfl, by rw [toValue, if_neg h]⟩
  | _ =>
    refine .inl ⟨_, _, ?_, rfl⟩
    decide

theorem looksLikeOperation_toValue (operation : Operation) :
    operation.toValue.looksLikeOperation = true := by
  rcases operation.toValue_cases with ⟨key, v, hkey, h⟩ | ⟨pattern, options, -, h⟩
  · rw [h, Value.looksLikeOperation]
    simp [Value.entry, Value.fields, hkey.startsWithDollar]
  · rw [h]
    rfl

theorem reading_entry (key : String) (v : Value) :
    (Value.entry key v).reading.operation = ofOperator key v.reading := by
  rfl

/-- The outcome of an operation is that of the one read from its document. -/
def ReadsBack (operation : Operation) : Prop :=
  ∀ values, operation.toValue.reading.operation.holds values = operation.holds values

theorem readsBack_not {operation : Operation} (h : operation.ReadsBack) :
    (not operation).ReadsBack := by
  intro values
  have hread : (not operation).toValue.reading.operation
      = .not operation.toValue.reading.operation := by
    rw [toValue]
    rfl
  rw [hread, holds_not, holds_not, h values]

/-- An operation without parts is read as itself. -/
theorem reading_plain {operation : Operation} (h : ∀ f, operation ≠ .elemMatch f)
    (h' : ∀ negated, operation ≠ .not negated) :
    operation.toValue.reading.operation = operation := by
  cases operation with
  | compare comparison v =>
    cases comparison <;> exact congrArg (compare _) v.reading_raw
  | bits test mask => cases test <;> rfl
  | regex pattern options =>
    by_cases hoptions : options = ""
    · subst hoptions
      rfl
    · rw [toValue, if_neg hoptions]
      rfl
  | elemMatch f => exact absurd rfl (h f)
  | not negated => exact absurd rfl (h' negated)
  | _ => rfl

end Operation

/-! ### Tests -/

namespace Filter

/-- A test as it is read from its document. -/
def readTest : Filter → Filter
  | .field (.path path) operation =>
    testOf path (operation.abbreviate operation.toValue).reading
  | .field .element operation => .field .element operation.toValue.reading.operation
  | f => f

/-- The first of the entries is no option of a pattern before them. -/
def BeginsTest {α : Type} (entries : List (String × α)) : Prop :=
  ∀ entry ∈ entries.head?, entry.1 ≠ "$options"

theorem testsOf_cons (key : String) (r : Reading) {rest : List (String × Reading)}
    (h : BeginsTest rest) : testsOf ((key, r) :: rest) = testOf key r :: testsOf rest := by
  cases rest with
  | nil => rfl
  | cons entry rest => rw [testsOf, if_neg (h entry rfl)]

/-- The entries of a test are read as that test, whatever tests follow. -/
theorem testsOf_test (target : Target) (operation : Operation) {rest : List (String × Reading)}
    (hrest : BeginsTest rest) :
    testsOf (Value.readings (field target operation).toValue.fields ++ rest)
      = readTest (field target operation) :: testsOf rest := by
  cases target with
  | path p =>
    rw [toValue]
    exact testsOf_cons p _ hrest
  | element =>
    rw [toValue, readTest]
    rcases operation.toValue_cases with ⟨key, v, hkey, h⟩ | ⟨pattern, options, -, h⟩
    · have htest : testOf key v.reading = field .element (.ofOperator key v.reading) :=
        if_pos hkey.startsWithDollar
      rw [h, Operation.reading_entry, ← htest]
      exact testsOf_cons key _ hrest
    · rw [h]
      rfl

/-- A test is written as an object that begins with a test and has no key of a combination. -/
theorem toValue_test {target : Target} (operation : Operation) (ht : target.wellFormed = true) :
    ∃ entry more, (field target operation).toValue = .object (entry :: more) ∧
      entry.1 ≠ "$options" ∧ ∀ e ∈ entry :: more, e.1 ∉ combinationKeys := by
  cases target with
  | path p =>
    rw [Target.wellFormed_path] at ht
    have hdollar := (isOk_checkPath_iff.mp ht).2.1
    have hne : ∀ key, startsWithDollar key = true → p ≠ key := by
      rintro key hkey rfl
      rw [hdollar] at hkey
      cases hkey
    refine ⟨_, [], by rw [toValue]; rfl, hne _ rfl, ?_⟩
    rw [List.forall_mem_singleton]
    intro hmem
    have hall : ∀ key ∈ combinationKeys, startsWithDollar key = true := by decide
    exact hne p (hall p hmem) rfl
  | element =>
    rw [toValue]
    rcases operation.toValue_cases with ⟨key, v, hkey, h⟩ | ⟨pattern, options, -, h⟩
    · exact ⟨_, _, h, hkey.ne_options, List.forall_mem_singleton.mpr hkey.not_combination⟩
    · have hpattern : "$regex" ∉ combinationKeys := by decide
      have hoptions : "$options" ∉ combinationKeys := by decide
      refine ⟨_, _, h, by simp, ?_⟩
      rw [List.forall_mem_cons, List.forall_mem_singleton]
      exact ⟨hpattern, hoptions⟩

/-- What is read as a test at a path has the outcome of the test. -/
theorem holds_readTest {target : Target} {operation : Operation}
    (ht : target.wellFormed = true) (h : operation.ReadsBack) (d : Value) :
    (readTest (field target operation)).holds d = (field target operation).holds d := by
  cases target with
  | element => rw [readTest, holds_field, holds_field, h]
  | path p =>
    rw [Target.wellFormed_path] at ht
    have hdollar := (isOk_checkPath_iff.mp ht).2.1
    -- an equality is written as the bare value unless that would be read as an operation
    have habbreviate : operation.abbreviate operation.toValue = operation.toValue ∨
        ∃ v, operation = .compare .eq v ∧ v.looksLikeOperation = false ∧
          operation.abbreviate operation.toValue = v := by
      cases operation with
      | compare comparison v =>
        cases comparison with
        | eq =>
          cases hv : v.looksLikeOperation with
          | true =>
            left
            rw [Operation.abbreviate, if_pos hv]
          | false =>
            right
            refine ⟨v, rfl, hv, ?_⟩
            rw [Operation.abbreviate, if_neg (by simp [hv])]
        | _ => exact .inl rfl
      | _ => exact .inl rfl
    rw [readTest, testOf, if_neg (by simp [hdollar]), Value.reading_raw]
    rcases habbreviate with hdocument | ⟨v, rfl, hv, hvalue⟩
    · rw [hdocument, if_pos operation.looksLikeOperation_toValue, holds_field, holds_field, h]
    · rw [hvalue, if_neg (by simp [hv])]

/-! ### Conjunctions of tests -/

theorem holds_ofEntries {entries : List (String × Reading)}
    (h : ∀ e ∈ entries, e.1 ∉ combinationKeys) (d : Value) :
    (ofEntries entries).holds d = decided false (testsOf entries) d := by
  rw [ofEntries.eq_def]
  split
  · next key r =>
    have hkey := h _ List.mem_cons_self
    rw [combinationKeys] at hkey
    simp only [List.mem_cons, not_or] at hkey
    rw [if_neg hkey.1, if_neg hkey.2.1, if_neg hkey.2.2.1, if_neg hkey.2.2.2.1, testsOf,
      decided_singleton]
  · rw [holds_and]

/-- The filter is a well-formed test. -/
def IsTest (f : Filter) : Prop :=
  ∃ target operation, f = field target operation ∧ target.wellFormed = true

theorem readings_append (entries more : List (String × Value)) :
    Value.readings (entries ++ more) = Value.readings entries ++ Value.readings more := by
  rw [Value.readings_eq_map, Value.readings_eq_map, Value.readings_eq_map, List.map_append]

/-- The entries of tests put together are read as these tests. -/
theorem testsOf_flatMap {args : List Filter} (h : ∀ f ∈ args, f.IsTest) :
    testsOf (Value.readings (args.flatMap fun f => f.toValue.fields)) = args.map readTest ∧
      BeginsTest (Value.readings (args.flatMap fun f => f.toValue.fields)) ∧
      ∀ e ∈ Value.readings (args.flatMap fun f => f.toValue.fields), e.1 ∉ combinationKeys := by
  -- a test takes options that follow it, so the tests must be known not to begin with any
  induction args with
  | nil => exact ⟨rfl, nofun, nofun⟩
  | cons f fs ih =>
    obtain ⟨htests, hbegins, hkeys⟩ := ih fun g hg => h g (List.mem_cons_of_mem f hg)
    obtain ⟨target, operation, rfl, ht⟩ := h f List.mem_cons_self
    rw [List.flatMap_cons, readings_append]
    refine ⟨?_, ?_, ?_⟩
    · rw [testsOf_test target operation hbegins, htests, List.map_cons]
    · obtain ⟨entry, more, hvalue, hentry, -⟩ := toValue_test operation ht
      rw [hvalue, Value.fields, Value.readings]
      rintro e he
      cases he
      exact hentry
    · obtain ⟨entry, more, hvalue, -, hentries⟩ := toValue_test operation ht
      rw [hvalue, Value.fields, Value.readings_eq_map, List.forall_mem_append]
      exact ⟨List.forall_mem_map.mpr hentries, hkeys⟩

theorem toValues_eq_map (fs : List Filter) : toValues fs = fs.map toValue := by
  induction fs with
  | nil => rfl
  | cons f fs ih => rw [toValues, ih, List.map_cons]

/-- The negation of a test is written like the test of the negated operation. -/
theorem toValue_not_field (target : Target) (operation : Operation) :
    (not (field target operation)).toValue = (field target (.not operation)).toValue := by
  cases target with
  | path p => rfl
  | element => rfl

/-- Other negations are written as `nor` of one filter. -/
theorem toValue_not {f : Filter} (h : ∀ target operation, f ≠ field target operation) :
    (not f).toValue = .entry "$nor" (.array [f.toValue]) := by
  cases f with
  | field target operation => exact absurd rfl (h target operation)
  | _ => rfl

/-- The outcome of a filter is that of the one read from its document. -/
def ReadsBack (f : Filter) : Prop :=
  ∀ d, f.toValue.reading.filter.holds d = f.holds d

/-- The operands of a combination are read one by one. -/
theorem filterReadings_toValues (args : List Filter) :
    Value.filterReadings (toValues args) = args.map (·.toValue.reading.filter) := by
  rw [toValues_eq_map, Value.filterReadings_eq_map, List.map_map]
  rfl

theorem forall₂_of_readsBack {args : List Filter} (h : ∀ f ∈ args, f.ReadsBack) (d : Value) :
    List.Forall₂ (fun f g => g.holds d = f.holds d) args
      (Value.filterReadings (toValues args)) := by
  rw [filterReadings_toValues, List.forall₂_map_right_iff, List.forall₂_same]
  exact fun f hf => h f hf d

theorem readsBack_field {target : Target} {operation : Operation}
    (ht : target.wellFormed = true) (h : operation.ReadsBack) :
    (field target operation).ReadsBack := by
  intro d
  have htests := testsOf_flatMap (List.forall_mem_singleton.mpr
    (show (field target operation).IsTest from ⟨target, operation, rfl, ht⟩))
  rw [List.flatMap_cons, List.flatMap_nil, List.append_nil] at htests
  obtain ⟨entry, more, hvalue, -⟩ := toValue_test operation ht
  rw [hvalue] at htests ⊢
  rw [Value.reading_object]
  rw [Value.fields] at htests
  rw [holds_ofEntries htests.2.2, htests.1, List.map_singleton, decided_singleton]
  exact holds_readTest ht h d

/-- The tests that are put together into one document are tests at paths or of the element. -/
theorem isTest_of_testsAlike {args : List Filter}
    (h : (args.all (·.testsPath) || args.all (·.testsElement)) = true)
    (hw : ∀ f ∈ args, f.wellFormed = true) : ∀ f ∈ args, f.IsTest := by
  intro f hf
  rw [Bool.or_eq_true, List.all_eq_true, List.all_eq_true] at h
  have htest : f.testsPath = true ∨ f.testsElement = true :=
    h.imp (fun hall => hall f hf) (fun hall => hall f hf)
  cases f with
  | field target operation =>
    exact ⟨target, operation, rfl, ((wellFormed_field _ _).mp (hw _ hf)).1⟩
  | _ => rcases htest with htest | htest <;> cases htest

theorem readsBack_and {args : List Filter} (hw : ∀ f ∈ args, f.wellFormed = true)
    (h : ∀ f ∈ args, f.ReadsBack)
    (hoperations : ∀ f ∈ args, ∀ target operation, f = field target operation →
      operation.ReadsBack) :
    (and args).ReadsBack := by
  intro d
  rw [toValue, conjunction, holds_and]
  split
  · next hmerged =>
    rw [Bool.and_eq_true] at hmerged
    -- one document for all tests, which have no key in common
    have htests := isTest_of_testsAlike hmerged.1 hw
    obtain ⟨hread, -, hkeys⟩ := testsOf_flatMap htests
    rw [toValues_eq_map, List.flatMap_map, Value.reading_object, holds_ofEntries hkeys, hread]
    apply decided_congr
    rw [List.forall₂_map_right_iff, List.forall₂_same]
    intro f hf
    obtain ⟨target, operation, rfl, ht⟩ := htests f hf
    exact holds_readTest ht (hoperations _ hf target operation rfl) d
  · exact (holds_and _ d).trans (decided_congr (forall₂_of_readsBack h d))

theorem readsBack_or {args : List Filter} (h : ∀ f ∈ args, f.ReadsBack) :
    (or args).ReadsBack := by
  intro d
  rw [toValue, holds_or]
  exact (holds_or _ d).trans (decided_congr (forall₂_of_readsBack h d))

theorem readsBack_nor {args : List Filter} (h : ∀ f ∈ args, f.ReadsBack) :
    (nor args).ReadsBack := by
  intro d
  rw [toValue, holds_nor]
  exact (holds_nor _ d).trans (congrArg negated (decided_congr (forall₂_of_readsBack h d)))

theorem readsBack_not {f : Filter} (hf : ∀ target operation, f ≠ field target operation)
    (h : f.ReadsBack) : (not f).ReadsBack := by
  intro d
  have hnor : (nor [f]).ReadsBack := readsBack_nor (List.forall_mem_singleton.mpr h)
  have hvalue : (not f).toValue = (nor [f]).toValue := by
    rw [toValue_not hf, toValue, toValues, toValues]
  rw [hvalue, hnor d, holds_nor, decided_singleton, holds_not]

theorem readsBack_expr {e : Expression} (hw : e.wellFormed = true) : (expr e).ReadsBack := by
  intro d
  have hread : (expr e).toValue.reading.filter = expr (.read e.toValue.reading.raw) := by
    rw [toValue]
    rfl
  rw [hread, Value.reading_raw, holds, holds, Expression.evalOn, Expression.evalOn,
    Expression.eval_read e hw]

/-! ### All filters and operations -/

/-- What is written from a filter is read with its outcome; a test, and the negation of one, are
read through their operations. -/
theorem readsBack :
    (∀ f : Filter, f.wellFormed = true → f.ReadsBack ∧
      ∀ target operation, f = field target operation → operation.ReadsBack) ∧
    ∀ operation : Operation, operation.wellFormed = true → operation.ReadsBack := by
  apply Filter.induction
  case field =>
    intro target operation ih hw
    obtain ⟨ht, hoperation⟩ := (wellFormed_field target operation).mp hw
    refine ⟨readsBack_field ht (ih hoperation), ?_⟩
    rintro target' operation' h
    cases h
    exact ih hoperation
  case and =>
    intro args ih hw
    have hargs := ((wellFormed_and args).mp hw).2
    exact ⟨readsBack_and hargs (fun f hf => (ih f hf (hargs f hf)).1)
      fun f hf => (ih f hf (hargs f hf)).2, nofun⟩
  case or =>
    intro args ih hw
    have hargs := ((wellFormed_or args).mp hw).2
    exact ⟨readsBack_or fun f hf => (ih f hf (hargs f hf)).1, nofun⟩
  case nor =>
    intro args ih hw
    have hargs := ((wellFormed_nor args).mp hw).2
    exact ⟨readsBack_nor fun f hf => (ih f hf (hargs f hf)).1, nofun⟩
  case not =>
    intro f ih hw
    refine ⟨?_, nofun⟩
    obtain ⟨hf, hoperation⟩ := ih hw
    by_cases hfield : ∃ target operation, f = field target operation
    · obtain ⟨target, operation, rfl⟩ := hfield
      intro d
      -- the negation of a test is written below its path, so the operation is read back negated
      have ht := ((wellFormed_field target operation).mp hw).1
      have hnegation := readsBack_field ht (Operation.readsBack_not (hoperation _ _ rfl))
      rw [toValue_not_field, hnegation d, holds_field_not]
    · exact readsBack_not (fun target operation h => hfield ⟨target, operation, h⟩) hf
  case expr =>
    intro e hw
    exact ⟨readsBack_expr hw, nofun⟩
  case elemMatch =>
    intro f ih hw values
    have hread : (Operation.elemMatch f).toValue.reading.operation
        = .elemMatch f.toValue.reading.filter := by
      rw [Operation.toValue]
      rfl
    rw [hread, Operation.holds_elemMatch, Operation.holds_elemMatch]
    exact anyHolds_congr fun v _ => (ih hw).1 v
  case negation =>
    exact fun operation ih hw => Operation.readsBack_not (ih hw)
  case plain =>
    intro operation h h' _ values
    rw [Operation.reading_plain h h']

end Filter

end DocQuery
