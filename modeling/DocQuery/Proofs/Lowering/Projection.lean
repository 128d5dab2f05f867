import DocQuery.Lowering.Statement
import DocQuery.Proofs.Evaluation.Projection
import DocQuery.Proofs.Lowering.Path
import DocQuery.Proofs.Pipeline.WellFormed

/-!
# Fields that keep their name

An entry `"name": $.name` of a projection is lowered to the path `name`, which is kept.  The key is
compared with the name that is accessed, but it is kept as a path, and so a key with dots names
another place than the field that is accessed.

## Main results

* `isSameField_iff` — the values that are taken for the field of the key.
* `project_sameField` — **where such a field is kept as it would be computed.**
-/

namespace DocQuery

/-! ### The field of the key -/

theorem FieldKey.of_chainKey? {index : Expr} {name : String}
    (h : index.chainKey? = some (.field name)) :
    ∃ k : FieldKey, k.name = name ∧ index = k.toExpr := by
  unfold Expr.chainKey? at h
  split at h
  · cases h
    exact ⟨.bare name, rfl, rfl⟩
  · cases h
    exact ⟨.quoted name, rfl, rfl⟩
  · cases h
  · cases h

/-- A chain of one field is an access. -/
theorem exists_access_of_chain? {e : Expr} {base : ChainBase} {name : String}
    (h : e.chain? = some ⟨base, [.field name]⟩) :
    ∃ object index, e = .access object index ∧ object.chain? = some ⟨base, []⟩
      ∧ index.chainKey? = some (.field name) := by
  unfold Expr.chain? at h
  split at h
  · cases h
  · cases h
  · next object index =>
    simp only [Option.bind_eq_bind, Option.bind_eq_some_iff, Option.pure_def,
      Option.some.injEq, Chain.mk.injEq] at h
    obtain ⟨⟨start, keys⟩, hchain, last, hlast, rfl, hkeys⟩ := h
    obtain ⟨rfl, hsame⟩ := List.append_eq_singleton_iff.mp hkeys |>.resolve_right (by simp)
    cases hsame
    exact ⟨object, index, rfl, hchain, hlast⟩
  · cases h

/-- A chain without keys is the document itself. -/
theorem eq_root_of_chain? {e : Expr} (h : e.chain? = some ⟨.root, []⟩) : e = .root := by
  unfold Expr.chain? at h
  split at h
  · rfl
  · cases h
  · simp [Option.bind_eq_some_iff] at h
  · cases h

/-- The values that are taken for the field of the key: its accesses on the document, with a bare or
a quoted name. -/
theorem isSameField_iff {key : String} {value : Expr} :
    isSameField key value = true
      ↔ ∃ k : FieldKey, k.name = key ∧ value = Scope.document.access [k] := by
  rw [isSameField, decide_eq_true_iff]
  constructor
  · intro h
    obtain ⟨object, index, rfl, hobject, hindex⟩ := exists_access_of_chain? h
    obtain ⟨k, hname, rfl⟩ := FieldKey.of_chainKey? hindex
    exact ⟨k, hname, by rw [eq_root_of_chain? hobject]; rfl⟩
  · rintro ⟨k, rfl, rfl⟩
    exact chain?_access .document [k]

/-! ### Both forms of the entry -/

/-- A projection to one path is refused only for the path. -/
theorem isOk_project?_singleton (entry : Projection) :
    (Stage.project? [entry]).isOk = (checkPath "specifications" entry.path).isOk := by
  -- a single entry is a drop or it is none
  have hcheck : (Stage.checkProjections [entry]).isOk
      = (checkPath "specifications" entry.path).isOk := by
    cases hdrop : entry.isDrop <;> simp [Stage.checkProjections, checkEach, hdrop]
  rw [Stage.project?, isOk_check_bind, hcheck, pure_eq_ok, isOk_ok, Bool.and_true]

variable {key : String}

/-- A field of the document can be read if its name is a path. -/
theorem exists_fieldOf_root (h : (checkPath "specifications" key).isOk = true) :
    ∃ x, fieldOf .root key = .ok x := by
  have hok : (fieldOf .root key).isOk = true := by
    rw [isOk_checkPath_iff] at h
    unfold fieldOf
    split
    · exact (isOk_map _ _).trans (isOk_checkPath_iff.mpr h)
    · simp [Expression.getField?, h]
  cases hx : fieldOf .root key with
  | ok x => exact ⟨x, rfl⟩
  | error e =>
    rw [hx] at hok
    cases hok

/-- The field is computed by an expression that has its value, with or without dots in its name. -/
theorem lowerValue_field (context : Context) (k : FieldKey) {fields : List (String × Value)}
    {v : Value} (hpath : (checkPath "specifications" k.name).isOk = true)
    (hfield : fields.lookup k.name = some v) :
    ∃ x, lowerValue context false (Scope.document.access [k]) = .ok x
      ∧ x.evalOn (.object fields) = .ok v := by
  obtain ⟨x, hx⟩ := exists_fieldOf_root hpath
  have hlower : lowerValue context Scope.document.isBound (Scope.document.access [k]) = .ok x := by
    rw [← List.nil_append [k], Scope.access_concat, lowerValue_access, Scope.access_nil,
      lowerValue_subject]
    exact liftArgument_eq_ok_iff.mpr hx
  refine ⟨x, hlower, ?_⟩
  have henv : Scope.document.Reads (.ofDocument (.object fields)) (.object fields) := rfl
  have hstraight : (Value.object fields).IsStraight (fieldNames [k]) :=
    Value.isStraight_cons_iff.mpr ⟨nofun, fun u _ => Value.isStraight_nil u⟩
  have hfollow : (Value.object fields).follow (fieldNames [k]) = some v :=
    (Value.follow_cons k.name [] _).trans (congrArg (Option.bind · (Value.follow [])) hfield)
  rw [Expression.evalOn, (readsPath_of_lowerValue hlower).eval henv hstraight, hfollow]
  rfl

/-- Where a field that keeps its name is kept as it would be computed.  Its value is computed by an
expression that the projection takes as it takes the path to be kept, and the value is assigned at
the path; keeping the path does the same if and only if the path yields the value of the field.
That is so for all names without dots. -/
theorem project_sameField (context : Context) {value : Expr} {fields : List (String × Value)}
    {v : Value} (hsame : isSameField key value = true) (hfield : fields.lookup key = some v)
    (hstage : (Stage.project? [.keep key]).isOk = true) :
    ∃ x output, lowerValue context false value = .ok x
      ∧ (Stage.project? [.compute key x]).isOk = true
      ∧ project [.compute key x] (.object fields) = .ok output
      ∧ output.at? (pathSegments key) = some v
      ∧ (project [.keep key] (.object fields) = .ok output
        ↔ (Value.object fields).at? (pathSegments key) = some v)
      ∧ ('.' ∉ key.toList → project [.keep key] (.object fields) = .ok output) := by
  obtain ⟨k, rfl, rfl⟩ := isSameField_iff.mp hsame
  rw [isOk_project?_singleton] at hstage
  obtain ⟨x, hlower, heval⟩ := lowerValue_field context k hstage hfield
  have hcompute := project_compute k.name heval
  have hiff : project [.keep k.name] (.object fields)
        = .ok ((startingId [] (.object fields)).assign k.name v)
      ↔ (Value.object fields).at? (pathSegments k.name) = some v := by
    rw [← hcompute]
    exact project_keep_eq_iff heval
  refine ⟨x, _, hlower, ?_, hcompute, Value.at?_assign _ _ _, hiff, fun hdot => hiff.mpr ?_⟩
  · rw [isOk_project?_singleton]
    exact hstage
  · rw [pathSegments_of_notMem hdot, Value.at?_cons_object, hfield, Option.bind_some, Value.at?]

/-- The field `a.b`, in a document that has something at the path as well. -/
theorem project_sameField_dotted :
    let value : Expr := .access .root (.string "a.b")
    let fields : List (String × Value) :=
      [("a.b", .int 1), ("a", .object [("b", .int 1), ("c", .int 2)])]
    isSameField "a.b" value = true ∧ fields.lookup "a.b" = some (.int 1)
      ∧ (Stage.project? [.keep "a.b"]).isOk = true
      ∧ (Value.object fields).at? (pathSegments "a.b") = some (.int 1)
      ∧ ∃ x, lowerValue .empty false value = .ok x
        ∧ (project [.compute "a.b" x] (.object fields)).isOk = true
        ∧ project [.keep "a.b"] (.object fields) = project [.compute "a.b" x] (.object fields) := by
  intro value fields
  have hsame : isSameField "a.b" value = true := by rfl
  have hfield : fields.lookup "a.b" = some (.int 1) := by rfl
  have hstage : (Stage.project? [.keep "a.b"]).isOk = true := by rfl
  have hpath : (Value.object fields).at? (pathSegments "a.b") = some (.int 1) := by rfl
  obtain ⟨x, output, hlower, -, hcompute, -, hiff, -⟩ :=
    project_sameField .empty hsame hfield hstage
  refine ⟨hsame, hfield, hstage, hpath, x, hlower, ?_, ?_⟩
  · rw [hcompute]
    rfl
  · rw [hcompute]
    exact hiff.mpr hpath

/-- The field `a.b` is kept as nothing, since there is no field `a`, but computed as 1. -/
theorem project_keep_ne_of_dot :
    let value : Expr := .access .root (.string "a.b")
    let document : Value := .object [("a.b", .int 1)]
    isSameField "a.b" value = true ∧ document.fields.lookup "a.b" = some (.int 1)
      ∧ (Stage.project? [.keep "a.b"]).isOk = true
      ∧ lowerValue .empty false value = .ok (.getField "a.b" .root)
      ∧ (Stage.project? [.compute "a.b" (.getField "a.b" .root)]).isOk = true
      ∧ project [.keep "a.b"] document = .ok (.object [])
      ∧ project [.compute "a.b" (.getField "a.b" .root)] document
        = .ok (.object [("a", .object [("b", .int 1)])]) := by
  exact ⟨by rfl, by rfl, by rfl, by rfl, by rfl, by rfl, by rfl⟩

end DocQuery
