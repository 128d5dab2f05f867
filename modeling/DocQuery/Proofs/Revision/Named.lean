import DocQuery.Proofs.Revision.Simplified

/-!
# Names of revised nodes

Computed documents, stages that set fields and groups name their children.  They are rebuilt from
revisions without names, one for each place, so that the names come from the old node.  If there are
not as many revisions as names, a stage is not rebuilt; a document loses the names that nothing is
given for.

## Main definitions

* `KeepsNames` — a node is rebuilt under all of its names, or refused for the number of revisions.

## Main results

* `update_keepsNames` — **stages keep their names, and documents do if there is a revision for each.**
-/

namespace DocQuery

open Revised

variable {α β : Type}

/-! ### Rebuilt nodes -/

/-- The node `old`, which is made of the named members, is rebuilt from revisions of them: it is
refused, which happens only if there is not one revision for each member, or the result is made of
members with the same names in the same order, each of which carries what is given for its place. -/
def KeepsNames (old : β) (make : List (String × α) → β) (members : List (String × α))
    (rs : List (Revised α)) (result : Except ArgumentError (Revised β)) : Prop :=
  (rs.length ≠ members.length ∧ ∃ e, result = .error e) ∨
  ∃ r news, result = .ok r ∧ r.resolve old = make news ∧
    news.map (·.1) = members.map (·.1) ∧
    news.map (·.2) = List.zipWith (fun member r => r.resolve member.2) members rs

namespace KeepsNames

variable {old : β} {make : List (String × α) → β} {members : List (String × α)}
  {rs : List (Revised α)}

/-- A node that is itself if its members are, and is otherwise made of those that result. -/
theorem of_resolveNamed {kept : Bool} {new : β}
    (hkept : kept = true → keepAll members.length rs = true ∧ old = make members)
    (hnew : new = make (resolveNamed members rs)) (henough : members.length ≤ rs.length) :
    KeepsNames old make members rs (.ok (if kept then .kept else .changed new)) := by
  cases kept with
  | true =>
    obtain ⟨hall, hold⟩ := hkept rfl
    refine .inr ⟨.kept, members, rfl, hold, rfl, ?_⟩
    rw [← map_snd_resolveNamed, resolveNamed_of_keepAll hall]
  | false =>
    exact .inr ⟨.changed new, resolveNamed members rs, rfl, hnew,
      map_fst_resolveNamed_of_length_le henough, map_snd_resolveNamed⟩

/-- Names that are all kept have a revision each. -/
theorem length_le {r : Revised β} (h : KeepsNames old make members rs (.ok r)) :
    members.length ≤ rs.length := by
  obtain ⟨-, e, he⟩ | ⟨r', news, -, -, hnames, hvalues⟩ := h
  · cases he
  · have hlength := congrArg List.length hnames
    have hlength' := congrArg List.length hvalues
    rw [List.length_map, List.length_map] at hlength
    rw [List.length_map, List.length_zipWith] at hlength'
    omega

/-- A check of the number of revisions comes first. -/
theorem of_ensure {argument : String} {fault : ArgumentFault} {outcome : Revised β}
    (h : rs.length = members.length → KeepsNames old make members rs (.ok outcome)) :
    KeepsNames old make members rs (do
      ensure (rs.length == members.length) argument fault
      return outcome) := by
  by_cases hlength : rs.length = members.length
  · rw [hlength, beq_self_eq_true, ensure, if_pos rfl, ok_bind]
    exact h hlength
  · rw [beq_eq_false_iff_ne.mpr hlength, ensure, if_neg Bool.false_ne_true]
    exact .inl ⟨hlength, _, rfl⟩

end KeepsNames

/-- **Rebuilt stages have the names of the old ones**, in the same order and each with what is given
for its place, or they are refused.  A document, which is never refused, keeps all of its names
exactly if there are as many revisions as names or more. -/
theorem update_keepsNames (fields : List (String × Expression)) (rs : List (Revised Expression))
    (key : Expression) (accumulators : List (String × AccumulatorExpression))
    (revisedKey : Revised Expression) (revised : List (Revised AccumulatorExpression)) :
    KeepsNames (.addFields fields) .addFields fields rs (Stage.updateFields fields rs) ∧
    KeepsNames (.group key accumulators) (.group (revisedKey.resolve key)) accumulators revised
      (Stage.updateGroup key accumulators revisedKey revised) ∧
    (KeepsNames (.document fields) .document fields rs (Expression.update rs (.document fields))
      ↔ fields.length ≤ rs.length) := by
  refine ⟨?_, ?_, ?_⟩
  · refine .of_ensure fun hlength => .of_resolveNamed (fun hkept => ?_) rfl ?_
    · exact ⟨hkept, rfl⟩
    · exact Nat.le_of_eq hlength.symm
  · refine .of_ensure fun hlength =>
      .of_resolveNamed (fun hkept => ?_) rfl (Nat.le_of_eq hlength.symm)
    obtain ⟨hkey, hall⟩ := Bool.and_eq_true_iff.mp hkept
    cases revisedKey with
    | kept => exact ⟨hall, rfl⟩
    | changed new => cases hkey
  · exact ⟨KeepsNames.length_le, .of_resolveNamed (fun hkept => ⟨hkept, rfl⟩) rfl⟩

/-- A document of two fields that is rebuilt from one value loses a field. -/
theorem Expression.update_dropsName :
    let fields : List (String × Expression) := [("a", .constant .null), ("b", .constant .null)]
    let rs : List (Revised Expression) := [.changed .root]
    Expression.update rs (.document fields) = .ok (.changed (.document [("a", .root)])) ∧
      ¬KeepsNames (.document fields) .document fields rs
        (Expression.update rs (.document fields)) := by
  intro fields rs
  have hupdate : Expression.update rs (.document fields)
      = .ok (.changed (.document [("a", .root)])) := rfl
  refine ⟨hupdate, fun h => ?_⟩
  rw [hupdate] at h
  exact absurd h.length_le (by decide)

end DocQuery
