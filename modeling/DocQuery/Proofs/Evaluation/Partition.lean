import DocQuery.Proofs.Evaluation.Grouping
import DocQuery.Proofs.Evaluation.Sum
import DocQuery.Proofs.Pipeline.WellFormed

/-!
# Groups partition the documents

A group stage makes a document of each class of documents with equal keys.  Equality of keys is an
equivalence, although it is not sameness (`1` and `1.0` are equal), so each document belongs to one
group; the key of the first one is the `_id`, and what the accumulators collect comes from all
documents of the group, in order.

## Main definitions

* `firsts` — the values that are equal to none before them.
* `Expression.valueOn`, `Expression.peers` — the key of a document, and the documents with a key.
* `groupDocument` — the document that is made of a group.

## Main results

* `distinct_eq_firsts` — a set keeps the values that are equal to none before them.
* `groupDocuments_eq` — grouping, group by group.
* `sum_length_peers` — the groups have as many documents as there are.
* `Stage.run_group_partition` — **a group stage partitions the documents.**
-/

namespace DocQuery

/-! ### Values that are equal to none before them -/

/-- The values that are equal to none before them, those given first included. -/
def firsts (before : List Value) : List Value → List Value
  | [] => []
  | v :: vs =>
    if before.any (·.equal v) then firsts (v :: before) vs else v :: firsts (v :: before) vs

section Firsts

variable {before kept values : List Value} {v w : Value}

theorem firsts_cons_of_any (h : before.any (·.equal v) = true) :
    firsts before (v :: values) = firsts (v :: before) values :=
  if_pos h

theorem firsts_cons_of_not_any (h : before.any (·.equal v) = false) :
    firsts before (v :: values) = v :: firsts (v :: before) values :=
  if_neg (Bool.eq_false_iff.mp h)

/-- Looking for an equal value among those that are kept finds one whenever there was one before. -/
theorem foldl_addDistinct (h : ∀ w, kept.any (·.equal w) = before.any (·.equal w))
    (more : List Value) : more.foldl addDistinct kept = kept ++ firsts before more := by
  induction more generalizing kept before with
  | nil => exact (List.append_nil kept).symm
  | cons v more ih =>
    rw [List.foldl_cons, addDistinct]
    cases hany : before.any (·.equal v) with
    | true =>
      rw [h v, hany, if_pos rfl, firsts_cons_of_any hany]
      refine ih fun w => ?_
      rw [h w, List.any_cons]
      cases hvw : v.equal w with
      | false => rfl
      | true =>
        obtain ⟨u, hu, huv⟩ := List.any_eq_true.mp hany
        exact List.any_eq_true.mpr ⟨u, hu, Value.equal_trans huv hvw⟩
    | false =>
      rw [h v, hany, if_neg Bool.false_ne_true, firsts_cons_of_not_any hany,
        List.append_cons kept v (firsts (v :: before) more)]
      refine ih fun w => ?_
      rw [List.any_append, h w, List.any_cons, List.any_nil, List.any_cons, Bool.or_false,
        Bool.or_comm]

theorem distinct_eq_firsts (values : List Value) : distinct values = firsts [] values :=
  foldl_addDistinct (fun _ => rfl) values

theorem represents_firsts (values : List Value) : Represents (firsts [] values) values :=
  distinct_eq_firsts values ▸ represents_distinct values

theorem not_equal_of_mem_firsts (hw : w ∈ firsts before values) :
    ∀ v ∈ before, v.equal w = false := by
  induction values generalizing before with
  | nil => cases hw
  | cons u values ih =>
    cases hany : before.any (·.equal u) with
    | true =>
      rw [firsts_cons_of_any hany] at hw
      exact (List.forall_mem_cons.mp (ih hw)).2
    | false =>
      rw [firsts_cons_of_not_any hany] at hw
      rcases List.mem_cons.mp hw with rfl | hmem
      · simpa using hany
      · exact (List.forall_mem_cons.mp (ih hmem)).2

/-- Each of the values is the first one that is equal to it. -/
theorem find?_of_mem_firsts (hw : w ∈ firsts before values) :
    values.find? w.equal = some w := by
  induction values generalizing before with
  | nil => cases hw
  | cons v values ih =>
    have hlater (hmem : w ∈ firsts (v :: before) values) :
        (v :: values).find? w.equal = some w := by
      have hv : v.equal w = false := not_equal_of_mem_firsts hmem v List.mem_cons_self
      rw [List.find?_cons_of_neg (by rw [Value.equal_comm, hv]; exact Bool.false_ne_true)]
      exact ih hmem
    cases hany : before.any (·.equal v) with
    | true =>
      rw [firsts_cons_of_any hany] at hw
      exact hlater hw
    | false =>
      rw [firsts_cons_of_not_any hany] at hw
      rcases List.mem_cons.mp hw with rfl | hmem
      · exact List.find?_cons_of_pos w.equal_self
      · exact hlater hmem

/-- The values stand in the order in which values equal to them come up first. -/
theorem findIdx_firsts_increasing (before values : List Value) :
    ((firsts before values).map fun w => values.findIdx w.equal).Pairwise (· < ·) := by
  induction values generalizing before with
  | nil => exact .nil
  | cons v values ih =>
    -- those that are kept of the rest are found one place further on
    have hlater : ∀ w ∈ firsts (v :: before) values,
        (v :: values).findIdx w.equal = values.findIdx w.equal + 1 := by
      intro w hw
      have hv : v.equal w = false := not_equal_of_mem_firsts hw v List.mem_cons_self
      rw [List.findIdx_cons, Value.equal_comm, hv]
      rfl
    have hrest : ((firsts (v :: before) values).map fun w => (v :: values).findIdx w.equal).Pairwise
        (· < ·) := by
      rw [List.map_congr_left hlater, List.pairwise_map]
      exact (List.pairwise_map.mp (ih _)).imp fun h => Nat.add_lt_add_right h 1
    cases hany : before.any (·.equal v) with
    | true => rwa [firsts_cons_of_any hany]
    | false =>
      rw [firsts_cons_of_not_any hany, List.map_cons, List.pairwise_cons]
      refine ⟨List.forall_mem_map.mpr fun w hw => ?_, hrest⟩
      rw [hlater w hw, List.findIdx_cons, v.equal_self]
      exact Nat.succ_pos _

/-- Exactly one of the kept values is equal to a value of the list. -/
theorem Represents.countP_eq_one (h : Represents kept values) (hv : v ∈ values) :
    kept.countP (·.equal v) = 1 := by
  obtain ⟨w, hw, hwv⟩ := h.covers v hv
  have hapart := h.apart
  clear h hv
  induction kept with
  | nil => cases hw
  | cons u kept ih =>
    obtain ⟨hu, hkept⟩ := List.pairwise_cons.mp hapart
    rcases List.mem_cons.mp hw with rfl | hmem
    · have hnone : kept.countP (·.equal v) = 0 := by
        refine List.countP_eq_zero.mpr fun u hmem huv => ?_
        have hwu := hu u hmem
        rw [Value.equal_congr hwv, Value.equal_comm, huv] at hwu
        cases hwu
      rw [List.countP_cons, hnone, if_pos hwv]
    · have huv : ¬ u.equal v = true := by
        rw [Value.equal_comm, ← Value.equal_congr hwv, Value.equal_comm, hu w hmem]
        exact Bool.false_ne_true
      rw [List.countP_cons, ih hmem hkept, if_neg huv]

/-- Each value is counted for one of those that stand for all. -/
theorem Represents.sum_countP (h : Represents kept values) :
    (kept.map fun w => values.countP w.equal).sum = values.length := by
  have hcount : ∀ more : List Value, (∀ v ∈ more, v ∈ values) →
      (kept.map fun w => more.countP w.equal).sum = more.length := by
    intro more
    induction more with
    | nil => simp
    | cons v more ih =>
      intro hmem
      obtain ⟨hv, hmore⟩ := List.forall_mem_cons.mp hmem
      have hcons (kept : List Value) : (kept.map fun w => (v :: more).countP w.equal).sum
          = (kept.map fun w => more.countP w.equal).sum + kept.countP (·.equal v) := by
        induction kept with
        | nil => rfl
        | cons w kept ih =>
          rw [List.map_cons, List.sum_cons, ih, List.countP_cons, List.countP_cons, List.map_cons,
            List.sum_cons]
          omega
      rw [hcons, ih hmore, h.countP_eq_one hv, List.length_cons]
  exact hcount values fun _ hv => hv

end Firsts

/-! ### The keys of documents -/

namespace Expression

/-- The expression has a value for the document. -/
def EvaluatesOn (e : Expression) (document : Value) : Prop :=
  ∃ v, e.evalOn document = .ok v

/-- The value that the expression has for the document, if it has one. -/
def valueOn (e : Expression) (document : Value) : Value :=
  match e.evalOn document with
  | .ok v => v
  | .error _ => .null

/-- The documents for which the expression has a value that is equal to the given one. -/
def peers (key : Expression) (documents : List Value) (id : Value) : List Value :=
  documents.filter fun d => id.equal (key.valueOn d)

variable {e : Expression} {document : Value}

theorem valueOn_of_evalOn {v : Value} (h : e.evalOn document = .ok v) :
    e.valueOn document = v := by
  rw [valueOn, h]

theorem EvaluatesOn.evalOn_eq (h : e.EvaluatesOn document) :
    e.evalOn document = .ok (e.valueOn document) := by
  obtain ⟨v, hv⟩ := h
  rw [hv, valueOn_of_evalOn hv]

end Expression

/-! ### Groups -/

section Group

variable {key : Expression} {accumulators : List (String × AccumulatorExpression)}
  {documents : List Value}

/-- The document that is made of a group: its key and what the accumulators collect. -/
def groupDocument (accumulators : List (String × AccumulatorExpression)) (id : Value)
    (members : List Value) : Except EvalError Value :=
  (.object <| ("_id", id) :: ·) <$> accumulators.mapM fun a =>
    (a.1, ·) <$> a.2.operator.eval (members.map a.2.arg.valueOn)

theorem map_fst_groupRows (rows : List (Value × List Value)) :
    (groupRows rows).map (·.1) = firsts [] (rows.map (·.1)) := by
  have hfold (rows : List (Value × List Value)) (groups : List (Value × List (List Value))) :
      (rows.foldl (fun groups row => insertRow row groups) groups).map (·.1)
        = (rows.map (·.1)).foldl addDistinct (groups.map (·.1)) := by
    induction rows generalizing groups with
    | nil => rfl
    | cons row rows ih =>
      rw [List.foldl_cons, ih, map_fst_insertRow]
      rfl
  rw [groupRows, hfold]
  exact distinct_eq_firsts _

/-- An accumulator collects what its argument yields, which stands at its place in the rows. -/
theorem collect_eq (members : List Value)
    (front accumulators : List (String × AccumulatorExpression)) :
    collect (members.map fun d => (front ++ accumulators).map fun a => a.2.arg.valueOn d)
        front.length accumulators
      = accumulators.mapM fun a =>
        (a.1, ·) <$> a.2.operator.eval (members.map a.2.arg.valueOn) := by
  induction accumulators generalizing front with
  | nil => rfl
  | cons a accumulators ih =>
    obtain ⟨name, a⟩ := a
    have hplace : (members.map fun d =>
        (front ++ (name, a) :: accumulators).map fun a => a.2.arg.valueOn d).filterMap
          (·[front.length]?) = members.map a.arg.valueOn := by
      rw [List.filterMap_map, ← List.filterMap_eq_map]
      refine congrArg (List.filterMap · members) (funext fun d => ?_)
      simp
    have hrest := ih (front ++ [(name, a)])
    rw [← List.append_cons, List.length_append, List.length_singleton] at hrest
    rw [collect, hplace, hrest, List.mapM_cons]
    cases a.operator.eval (members.map a.arg.valueOn) <;> rfl

/-- The key of a document and what it yields for the accumulators. -/
theorem groupRow_eq_ok {d : Value} (hkey : key.EvaluatesOn d)
    (hargs : ∀ a ∈ accumulators, a.2.arg.EvaluatesOn d) :
    groupRow key accumulators d
      = .ok (key.valueOn d, accumulators.map fun a => a.2.arg.valueOn d) := by
  have hvalues : accumulators.mapM (fun a => a.2.arg.evalOn d)
      = .ok (accumulators.map fun a => a.2.arg.valueOn d) :=
    mapM_eq_ok_iff.mpr (List.forall₂_map_right_iff.mpr
      (List.forall₂_same.mpr fun a ha => (hargs a ha).evalOn_eq))
  rw [groupRow, hkey.evalOn_eq, ok_bind, hvalues]
  rfl

/-- Documents are grouped by making one of each group; its members are all documents whose keys are
equal to the first one's. -/
theorem groupDocuments_eq (hkey : ∀ d ∈ documents, key.EvaluatesOn d)
    (hargs : ∀ d ∈ documents, ∀ a ∈ accumulators, a.2.arg.EvaluatesOn d) :
    groupDocuments key accumulators documents
      = (firsts [] (documents.map key.valueOn)).mapM fun id =>
        groupDocument accumulators id (key.peers documents id) := by
  let rows := documents.map fun d => (key.valueOn d, accumulators.map fun a => a.2.arg.valueOn d)
  have hrows : documents.mapM (groupRow key accumulators) = .ok rows :=
    mapM_eq_ok_iff.mpr (List.forall₂_map_right_iff.mpr
      (List.forall₂_same.mpr fun d hd => groupRow_eq_ok (hkey d hd) (hargs d hd)))
  have hkeys : (groupRows rows).map (·.1) = firsts [] (documents.map key.valueOn) := by
    rw [map_fst_groupRows, List.map_map]
    rfl
  rw [groupDocuments, hrows, ok_bind, ← hkeys]
  refine mapM_congr (List.forall₂_map_right_iff.mpr (List.forall₂_same.mpr fun group hgroup => ?_))
  have hmembers : group.2 = (key.peers documents group.1).map fun d =>
      accumulators.map fun a => a.2.arg.valueOn d := by
    rw [(groups_groupRows rows).members group hgroup, List.filter_map, List.map_map]
    rfl
  obtain ⟨id, members⟩ := group
  have hcollect := collect_eq (key.peers documents id) [] accumulators
  rw [List.length_nil, List.nil_append] at hcollect
  dsimp only at hmembers ⊢
  rw [hmembers, hcollect]
  rfl

/-! ### What is found in the document of a group -/

/-- Entries that are made of named nodes are found under their names. -/
theorem lookup_of_forall₂ {α : Type} {p : String × α → Value → Prop} {nodes : List (String × α)}
    {fields : List (String × Value)}
    (h : List.Forall₂ (fun node field => field.1 = node.1 ∧ p node field.2) nodes fields)
    (hnames : (nodes.map (·.1)).Nodup) {node : String × α} (hnode : node ∈ nodes) :
    ∃ v, fields.lookup node.1 = some v ∧ p node v := by
  induction h with
  | nil => cases hnode
  | @cons first field nodes fields hfirst _ ih =>
    obtain ⟨name, value⟩ := field
    obtain ⟨rfl, hp⟩ := hfirst
    rw [List.map_cons, List.nodup_cons] at hnames
    rcases List.mem_cons.mp hnode with rfl | hmem
    · exact ⟨value, List.lookup_cons_self, hp⟩
    · obtain ⟨v, hv, hpv⟩ := ih hnames.2 hmem
      have hne : node.1 ≠ first.1 := fun heq => hnames.1 (heq ▸ List.mem_map_of_mem hmem)
      rw [List.lookup_cons, beq_false_of_ne hne]
      exact ⟨v, hv, hpv⟩

/-- The document of a group has the key as its `_id`, and what each accumulator collects under its
name. -/
theorem lookup_groupDocument {id g : Value} {members : List Value}
    (h : groupDocument accumulators id members = .ok g)
    (hnames : ("_id" :: accumulators.map (·.1)).Nodup) :
    g.fields.lookup "_id" = some id ∧ ∀ a ∈ accumulators, ∃ v,
      g.fields.lookup a.1 = some v ∧ a.2.operator.eval (members.map a.2.arg.valueOn) = .ok v := by
  obtain ⟨fields, hfields, rfl⟩ := map_eq_ok_iff.mp h
  obtain ⟨hid, hnames⟩ := List.nodup_cons.mp hnames
  refine ⟨List.lookup_cons_self, fun a ha => ?_⟩
  have hcollected : List.Forall₂ (fun a field => field.1 = a.1 ∧
      a.2.operator.eval (members.map a.2.arg.valueOn) = .ok field.2) accumulators fields := by
    refine (mapM_eq_ok_iff.mp hfields).imp fun a field hfield => ?_
    obtain ⟨v, hv, rfl⟩ := map_eq_ok_iff.mp hfield
    exact ⟨rfl, hv⟩
  have hne : a.1 ≠ "_id" := fun heq => hid (heq ▸ List.mem_map_of_mem ha)
  rw [Value.fields, List.lookup_cons, beq_false_of_ne hne]
  exact lookup_of_forall₂
    (p := fun a v => a.2.operator.eval (members.map a.2.arg.valueOn) = .ok v) hcollected hnames ha

/-- The document of a group can be made if all accumulators can collect. -/
theorem exists_groupDocument_iff {id : Value} {members : List Value} :
    (∃ g, groupDocument accumulators id members = .ok g)
      ↔ ∀ a ∈ accumulators, ∃ v, a.2.operator.eval (members.map a.2.arg.valueOn) = .ok v := by
  constructor
  · rintro ⟨g, hg⟩ a ha
    obtain ⟨fields, hfields, -⟩ := map_eq_ok_iff.mp hg
    obtain ⟨field, hfield⟩ := exists_of_mapM_eq_ok hfields a ha
    obtain ⟨v, hv, -⟩ := map_eq_ok_iff.mp hfield
    exact ⟨v, hv⟩
  · intro h
    have hall : ∀ a ∈ accumulators, ∃ field, (a.1, ·) <$> a.2.operator.eval
        (members.map a.2.arg.valueOn) = .ok field ∧ True := by
      intro a ha
      obtain ⟨v, hv⟩ := h a ha
      exact ⟨(a.1, v), by rw [hv, map_ok], trivial⟩
    obtain ⟨fields, hfields, -⟩ := exists_mapM_eq_ok hall
    exact ⟨_, by rw [groupDocument, hfields, map_ok]⟩

/-- Nothing but a sum or a mean can fail to be collected. -/
theorem Accumulation.exists_eval {a : Accumulation} (hsum : a ≠ .sum) (havg : a ≠ .avg)
    (values : List Value) : ∃ v, a.eval values = .ok v := by
  cases a with
  | sum => exact absurd rfl hsum
  | avg => exact absurd rfl havg
  | _ => exact ⟨_, rfl⟩

/-! ### Counting the documents of groups -/

theorem sum_of_ones {n : Nat} (h : n < 2 ^ 63) :
    sum (List.replicate n (.int 1)) = .ok (.ofNat n) := by
  have h63 : (pow2 63 : Int) = 2 ^ 63 := by decide
  obtain ⟨total, htotal⟩ := signed64?_isSome (n := n) (by omega) (by omega)
  have hvalue : Value.ofNat n = .int total := by
    rw [Value.ofNat, Number.ofInt, htotal]
    rfl
  have hexact : total.toInt = exactSum (List.replicate n 1) := by
    rw [toInt_of_signed64? htotal, exactSum, List.map_replicate, List.sum_replicate]
    simp
  have hbound : ((List.replicate n (1 : Int64)).map fun x => x.toInt.natAbs).sum < pow2 96 := by
    have h96 : pow2 96 = 2 ^ 96 := rfl
    rw [List.map_replicate, List.sum_replicate, h96]
    simp
    omega
  rw [hvalue, ← sum_of_magnitudes hbound hexact, List.map_replicate]

/-- The groups have as many documents as there are. -/
theorem sum_length_peers (key : Expression) (documents : List Value) :
    ((firsts [] (documents.map key.valueOn)).map fun id => (key.peers documents id).length).sum
      = documents.length := by
  have hcount (id : Value) : (key.peers documents id).length
      = (documents.map key.valueOn).countP id.equal := by
    rw [List.countP_map, List.countP_eq_length_filter]
    rfl
  calc ((firsts [] (documents.map key.valueOn)).map fun id => (key.peers documents id).length).sum
      = ((firsts [] (documents.map key.valueOn)).map fun id =>
          (documents.map key.valueOn).countP id.equal).sum :=
        congrArg List.sum (List.map_congr_left fun id _ => hcount id)
    _ = (documents.map key.valueOn).length := (represents_firsts _).sum_countP
    _ = documents.length := List.length_map _

/-- The document of a group counts its members under the name of a sum of ones. -/
theorem lookup_count {id g : Value} {members : List Value}
    (h : groupDocument accumulators id members = .ok g)
    (hnames : ("_id" :: accumulators.map (·.1)).Nodup) {name : String}
    (hcount : (name, ⟨.sum, .constant (.int 1)⟩) ∈ accumulators)
    (hlength : members.length < 2 ^ 63) :
    g.fields.lookup name = some (.ofNat members.length) := by
  obtain ⟨v, hv, heval⟩ := (lookup_groupDocument h hnames).2 _ hcount
  have hones : members.map (Expression.constant (.int 1)).valueOn
      = List.replicate members.length (.int 1) := List.map_const'
  rw [hones, Accumulation.eval, sum_of_ones hlength] at heval
  cases heval
  exact hv

/-! ### The partition -/

/-- The document shows a group: its key, the values of its members for a `push`, and those that are
equal to none before them for an `addToSet`. -/
structure ShowsGroup (accumulators : List (String × AccumulatorExpression)) (members : List Value)
    (id g : Value) : Prop where
  key : g.fields.lookup "_id" = some id
  push : ∀ name e, (name, ⟨.push, e⟩) ∈ accumulators →
    g.fields.lookup name = some (.array (members.map e.valueOn))
  addToSet : ∀ name e, (name, ⟨.addToSet, e⟩) ∈ accumulators →
    g.fields.lookup name = some (.array (firsts [] (members.map e.valueOn)))

theorem showsGroup_of_groupDocument {id g : Value} {members : List Value}
    (h : groupDocument accumulators id members = .ok g)
    (hnames : ("_id" :: accumulators.map (·.1)).Nodup) :
    ShowsGroup accumulators members id g := by
  obtain ⟨hid, hcollected⟩ := lookup_groupDocument h hnames
  refine ⟨hid, fun name e hmem => ?_, fun name e hmem => ?_⟩
  · obtain ⟨v, hv, heval⟩ := hcollected _ hmem
    cases heval
    exact hv
  · obtain ⟨v, hv, heval⟩ := hcollected _ hmem
    rw [Accumulation.eval, distinct_eq_firsts] at heval
    cases heval
    exact hv

/-- Documents with equal keys have the same peers. -/
theorem peers_congr {v w : Value} (h : v.equal w = true) :
    key.peers documents v = key.peers documents w :=
  List.filter_congr fun _ _ => Value.equal_congr h _

/-- All groups can be made if no sum and no mean of a group is out of range. -/
theorem exists_groupDocuments_iff (hkey : ∀ d ∈ documents, key.EvaluatesOn d)
    (hargs : ∀ d ∈ documents, ∀ a ∈ accumulators, a.2.arg.EvaluatesOn d) :
    (∃ out, groupDocuments key accumulators documents = .ok out) ↔
      ∀ d ∈ documents, ∀ a ∈ accumulators, a.2.operator = .sum ∨ a.2.operator = .avg →
        ∃ v, a.2.operator.eval ((key.peers documents (key.valueOn d)).map a.2.arg.valueOn)
          = .ok v := by
  rw [groupDocuments_eq hkey hargs]
  constructor
  · rintro ⟨out, hout⟩ d hd a ha -
    obtain ⟨id, hid, hequal⟩ := (represents_firsts _).covers _ (List.mem_map_of_mem hd)
    have hgroup := exists_groupDocument_iff.mp (exists_of_mapM_eq_ok hout id hid) a ha
    rwa [peers_congr hequal] at hgroup
  · intro h
    have hall : ∀ id ∈ firsts [] (documents.map key.valueOn), ∃ g,
        groupDocument accumulators id (key.peers documents id) = .ok g ∧ True := by
      intro id hid
      obtain ⟨d, hd, rfl⟩ := List.mem_map.mp (List.mem_of_find?_eq_some (find?_of_mem_firsts hid))
      have hgroup : ∀ a ∈ accumulators, ∃ v, a.2.operator.eval
          ((key.peers documents (key.valueOn d)).map a.2.arg.valueOn) = .ok v := by
        intro a ha
        by_cases hfails : a.2.operator = .sum ∨ a.2.operator = .avg
        · exact h d hd a ha hfails
        · obtain ⟨hsum, havg⟩ := not_or.mp hfails
          exact Accumulation.exists_eval hsum havg _
      obtain ⟨g, hg⟩ := exists_groupDocument_iff.mpr hgroup
      exact ⟨g, hg, trivial⟩
    obtain ⟨out, hout, -⟩ := exists_mapM_eq_ok hall
    exact ⟨out, hout⟩

/-- **A group stage partitions the documents**, if its key and the arguments of its accumulators have
values for all of them.  It yields documents unless a sum or a mean is out of range.  No two of them
have equal `_id`s; each `_id` is the key of the first document with a key equal to it, they stand in
the order of these documents, and every document has its key among them.  A `push` collects the
values of exactly the documents whose keys are equal to the `_id`, in order, and an `addToSet` the
same without those equal to one before.  The counts of fewer than `2 ^ 63` documents, which no list
in memory exceeds, add up to their number. -/
theorem Stage.run_group_partition {stage : Stage} (hstage : group? key accumulators = .ok stage)
    (hkey : ∀ d ∈ documents, key.EvaluatesOn d)
    (hargs : ∀ d ∈ documents, ∀ a ∈ accumulators, a.2.arg.EvaluatesOn d) :
    ((∃ out, stage.run documents = .ok out) ↔
      ∀ d ∈ documents, ∀ a ∈ accumulators, a.2.operator = .sum ∨ a.2.operator = .avg →
        ∃ v, a.2.operator.eval ((key.peers documents (key.valueOn d)).map a.2.arg.valueOn)
          = .ok v)
    ∧ ∀ out, stage.run documents = .ok out → ∃ ids : List Value,
      List.Forall₂ (fun id g => ShowsGroup accumulators (key.peers documents id) id g) ids out
      ∧ ids.Pairwise (fun v w => v.equal w = false)
      ∧ (∀ id ∈ ids, (documents.map key.valueOn).find? id.equal = some id)
      ∧ (ids.map fun id => (documents.map key.valueOn).findIdx id.equal).Pairwise (· < ·)
      ∧ (∀ d ∈ documents, ∃ id ∈ ids, id.equal (key.valueOn d) = true)
      ∧ ∀ name, (name, ⟨.sum, .constant (.int 1)⟩) ∈ accumulators → documents.length < 2 ^ 63 →
        ∃ counts : List Nat, out.map (·.fields.lookup name) = counts.map (fun n => some (.ofNat n))
          ∧ counts.sum = documents.length := by
  have hnames := nodup_of_group (by rw [hstage, isOk_ok] : (group? key accumulators).isOk = true)
  obtain rfl : group key accumulators = stage := by
    obtain ⟨-, -, hgroup⟩ := bind_eq_ok_iff.mp hstage
    exact Except.ok.inj hgroup
  refine ⟨exists_groupDocuments_iff hkey hargs, fun out hout => ?_⟩
  rw [run, groupDocuments_eq hkey hargs] at hout
  have hgroups := mapM_eq_ok_iff.mp hout
  have hkeys := represents_firsts (documents.map key.valueOn)
  refine ⟨firsts [] (documents.map key.valueOn),
    hgroups.imp fun id g hg => showsGroup_of_groupDocument hg hnames, hkeys.apart,
    fun id hid => find?_of_mem_firsts hid, findIdx_firsts_increasing _ _,
    fun d hd => hkeys.covers _ (List.mem_map_of_mem hd), fun name hcount hlength => ?_⟩
  refine ⟨(firsts [] (documents.map key.valueOn)).map fun id => (key.peers documents id).length,
    ?_, sum_length_peers key documents⟩
  rw [List.map_map]
  refine (map_congr_of_forall₂ (hgroups.imp fun id g hg => ?_)).symm
  have hpeers : (key.peers documents id).length ≤ documents.length := List.length_filter_le _ _
  exact (lookup_count hg hnames hcount (hpeers.trans_lt hlength)).symm

end Group

/-- The integer 1 and the number 1.0 are one key, a missing one is null, and equal values stay
together in the set. -/
theorem Stage.run_group_partition_mixed :
    let key : Expression := .field none "k"
    let accumulators : List (String × AccumulatorExpression) :=
      [("all", ⟨.push, .field none "x"⟩), ("set", ⟨.addToSet, .field none "x"⟩),
        ("n", ⟨.sum, .constant (.int 1)⟩)]
    let one : Value := .number (.real (.ofInt 1))
    let documents : List Value := [.object [("k", .int 1), ("x", one)], .object [("x", .null)],
      .object [("k", one), ("x", .int 1)], .object [("k", .int 1), ("x", .string "a")]]
    let out : List Value :=
      [.object [("_id", .int 1), ("all", .array [one, .int 1, .string "a"]),
          ("set", .array [one, .string "a"]), ("n", .int 3)],
        .object [("_id", .null), ("all", .array [.null]), ("set", .array [.null]), ("n", .int 1)]]
    group? key accumulators = .ok (.group key accumulators)
      ∧ (∀ d ∈ documents, key.EvaluatesOn d)
      ∧ (∀ d ∈ documents, ∀ a ∈ accumulators, a.2.arg.EvaluatesOn d)
      ∧ (Stage.group key accumulators).run documents = .ok out
      ∧ ∃ counts : List Nat, out.map (·.fields.lookup "n") = counts.map (fun n => some (.ofNat n))
        ∧ counts.sum = 4 := by
  intro key accumulators one documents out
  have hstage : group? key accumulators = .ok (.group key accumulators) := rfl
  have hkey : ∀ d ∈ documents, key.EvaluatesOn d := fun d _ => ⟨_, rfl⟩
  have hargs : ∀ d ∈ documents, ∀ a ∈ accumulators, a.2.arg.EvaluatesOn d := by
    intro d _ a ha
    simp only [accumulators, List.mem_cons, List.not_mem_nil, or_false] at ha
    rcases ha with rfl | rfl | rfl <;> exact ⟨_, rfl⟩
  have hrun : (Stage.group key accumulators).run documents = .ok out := rfl
  obtain ⟨ids, -, -, -, -, -, hcounts⟩ := (Stage.run_group_partition hstage hkey hargs).2 out hrun
  exact ⟨hstage, hkey, hargs, hrun, hcounts "n" (by simp [accumulators]) (by decide)⟩

end DocQuery
