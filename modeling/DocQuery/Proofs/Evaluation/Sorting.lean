import DocQuery.Evaluation.Stage
import DocQuery.Proofs.Value.Preorder
import Mathlib.Data.List.Pairwise

/-!
# Sorting documents

The keys of a sort order documents by the first key that tells them apart, which is a total preorder
because the order of values is one.  Of such an order there is only one stable sort of a list: what
ties with an element is a part of the list that stays as it is, and the order says where these parts
go.  So sorting by some keys first and then by others is sorting by all of them together, those that
come last being the more important ones.

## Main definitions

* `tiesWith` — the elements of a list that are equal to one in an order.
* `IsStableSort` — a list in ascending order in which these stand as they did.
* `SortKey.allTie` — documents that no key tells apart.

## Main results

* `IsStableSort.unique` — there is one stable sort.
* `isStableSort_sortBy` — sorting is stable.
* `IsStableSort.comp` — a stable sort of a stable sort goes by both orders.
* `Stage.run_sort_append` — **sorting by several keys is sorting by the last ones first.**
-/

namespace DocQuery

/-! ### Stable sorts -/

section StableSort

variable {α : Type} {order minor : α → α → Ordering} {x y : α} {xs ys zs : List α}

/-- The elements that are equal to `x` in an order. -/
def tiesWith (order : α → α → Ordering) (x : α) (xs : List α) : List α :=
  xs.filter fun y => order x y == .eq

/-- The second list is the first one in ascending order, and elements that are equal in the order
stand as they did. -/
structure IsStableSort (order : α → α → Ordering) (xs ys : List α) : Prop where
  perm : ys.Perm xs
  ascending : ys.Pairwise fun a b => (order a b).isLE
  ties : ∀ x, tiesWith order x ys = tiesWith order x xs

theorem tiesWith_cons_of_eq (h : order x y = .eq) :
    tiesWith order x (y :: ys) = y :: tiesWith order x ys :=
  List.filter_cons_of_pos (beq_iff_eq.mpr h)

theorem tiesWith_cons_of_ne (h : order x y ≠ .eq) :
    tiesWith order x (y :: ys) = tiesWith order x ys :=
  List.filter_cons_of_neg (mt beq_iff_eq.mp h)

theorem tiesWith_cons_congr (h : tiesWith order x xs = tiesWith order x ys) :
    tiesWith order x (y :: xs) = tiesWith order x (y :: ys) := by
  by_cases hy : order x y = .eq
  · rw [tiesWith_cons_of_eq hy, tiesWith_cons_of_eq hy, h]
  · rw [tiesWith_cons_of_ne hy, tiesWith_cons_of_ne hy, h]

theorem mem_of_mem_tiesWith (h : y ∈ tiesWith order x ys) : y ∈ ys :=
  (List.mem_filter.mp h).1

theorem tiesWith_append : tiesWith order x (xs ++ ys) = tiesWith order x xs ++ tiesWith order x ys :=
  List.filter_append _ _

theorem tiesWith_reverse : tiesWith order x xs.reverse = (tiesWith order x xs).reverse :=
  List.filter_reverse

theorem tiesWith_comm :
    tiesWith order x (tiesWith minor x xs) = tiesWith minor x (tiesWith order x xs) := by
  rw [tiesWith, tiesWith, tiesWith, tiesWith, List.filter_filter, List.filter_filter]
  exact List.filter_congr fun _ _ => Bool.and_comm _ _

/-- What ties in the first and then in the second order ties in both. -/
theorem tiesWith_then :
    tiesWith (fun a b => (order a b).then (minor a b)) x xs
      = tiesWith minor x (tiesWith order x xs) := by
  rw [tiesWith, tiesWith, tiesWith, List.filter_filter]
  refine List.filter_congr fun y _ => ?_
  cases order x y <;> cases minor x y <;> rfl

section Unique

variable [Std.TransCmp order]

/-- The first element of an ascending list is not above any that is in the list. -/
theorem isLE_of_mem_ascending (h : (x :: xs).Pairwise fun a b => (order a b).isLE)
    (hy : y ∈ x :: xs) : (order x y).isLE := by
  rcases List.mem_cons.mp hy with rfl | hmem
  · exact Ordering.isLE_of_eq_eq Std.ReflCmp.compare_self
  · exact (List.pairwise_cons.mp h).1 y hmem

/-- Ascending lists in which the same elements tie have the same first element. -/
theorem order_heads_eq (hxs : (x :: xs).Pairwise fun a b => (order a b).isLE)
    (hys : (y :: ys).Pairwise fun a b => (order a b).isLE)
    (h : ∀ z, tiesWith order z (x :: xs) = tiesWith order z (y :: ys)) : order x y = .eq := by
  have hmem (z : α) (zs : List α) : z ∈ tiesWith order z (z :: zs) := by
    rw [tiesWith_cons_of_eq Std.ReflCmp.compare_self]
    exact List.mem_cons_self
  have hxy : (order x y).isLE :=
    isLE_of_mem_ascending hxs (mem_of_mem_tiesWith (h y ▸ hmem y ys))
  have hyx : (order y x).isLE :=
    isLE_of_mem_ascending hys (mem_of_mem_tiesWith (h x ▸ hmem x xs))
  exact Std.OrientedCmp.isLE_antisymm hxy hyx

/-- An ascending list is determined by what ties in it. -/
theorem eq_of_ascending (hxs : xs.Pairwise fun a b => (order a b).isLE)
    (hys : ys.Pairwise fun a b => (order a b).isLE)
    (h : ∀ z, tiesWith order z xs = tiesWith order z ys) : xs = ys := by
  have hne (x : α) (xs : List α) : tiesWith order x (x :: xs) ≠ [] := by
    rw [tiesWith_cons_of_eq Std.ReflCmp.compare_self]
    exact List.cons_ne_nil _ _
  induction xs generalizing ys with
  | nil =>
    cases ys with
    | nil => rfl
    | cons y ys => exact absurd (h y).symm (hne y ys)
  | cons x xs ih =>
    cases ys with
    | nil => exact absurd (h x) (hne x xs)
    | cons y ys =>
      have hxy := order_heads_eq hxs hys h
      have hself : order x x = .eq := Std.ReflCmp.compare_self
      have hcons := h x
      rw [tiesWith_cons_of_eq hself, tiesWith_cons_of_eq hxy] at hcons
      obtain rfl := (List.cons.inj hcons).1
      have htail (z : α) : tiesWith order z xs = tiesWith order z ys := by
        have hz := h z
        by_cases hzx : order z x = .eq
        · rw [tiesWith_cons_of_eq hzx, tiesWith_cons_of_eq hzx] at hz
          exact (List.cons.inj hz).2
        · rwa [tiesWith_cons_of_ne hzx, tiesWith_cons_of_ne hzx] at hz
      rw [ih (List.pairwise_cons.mp hxs).2 (List.pairwise_cons.mp hys).2 htail]

/-- There is one stable sort of a list. -/
theorem IsStableSort.unique (hys : IsStableSort order xs ys) (hzs : IsStableSort order xs zs) :
    ys = zs :=
  eq_of_ascending hys.ascending hzs.ascending fun z => (hys.ties z).trans (hzs.ties z).symm

end Unique

/-- A stable sort of a stable sort is one by both orders, of which the last one decides first. -/
theorem IsStableSort.comp [Std.ReflCmp order] (hys : IsStableSort minor xs ys)
    (hzs : IsStableSort order ys zs) :
    IsStableSort (fun a b => (order a b).then (minor a b)) xs zs := by
  refine ⟨hzs.perm.trans hys.perm, ?_, fun z => ?_⟩
  · refine List.pairwise_iff_forall_sublist.mpr fun {a b} hab => ?_
    have hle := List.pairwise_iff_forall_sublist.mp hzs.ascending hab
    cases horder : order a b with
    | gt =>
      rw [horder] at hle
      cases hle
    | lt => rfl
    | eq =>
      -- the two tie, so they stand as they did after the first sort
      have hties : [a, b].Sublist (tiesWith order a zs) := by
        have hboth : tiesWith order a [a, b] = [a, b] := by
          rw [tiesWith_cons_of_eq Std.ReflCmp.compare_self, tiesWith_cons_of_eq horder]
          rfl
        rw [← hboth]
        exact hab.filter _
      rw [hzs.ties] at hties
      exact List.pairwise_iff_forall_sublist.mp hys.ascending
        (hties.trans List.filter_sublist)
  · rw [tiesWith_then, tiesWith_then, hzs.ties, tiesWith_comm, hys.ties, tiesWith_comm]

/-! ### Sorting by insertion -/

theorem perm_insertDescending (order : α → α → Ordering) (x : α) (ys : List α) :
    (insertDescending order x ys).Perm (x :: ys) := by
  induction ys with
  | nil => exact .refl _
  | cons y ys ih =>
    rw [insertDescending]
    split
    · exact (ih.cons y).trans (.swap x y ys)
    · exact .refl _

section Insertion

variable [Std.TransCmp order]

/-- An element is put behind those that are above it, so it ties with none that it passes. -/
theorem tiesWith_insertDescending (z x : α) (ys : List α) :
    tiesWith order z (insertDescending order x ys) = tiesWith order z (x :: ys) := by
  induction ys with
  | nil => rfl
  | cons y ys ih =>
    rw [insertDescending]
    split
    · next hlt =>
      by_cases hzx : order z x = .eq
      · have hzy : order z y ≠ .eq := by
          rw [Std.TransCmp.congr_left hzx, Ordering.isLT_iff_eq_lt.mp hlt]
          exact nofun
        rw [tiesWith_cons_of_ne hzy, ih, tiesWith_cons_of_eq hzx, tiesWith_cons_of_eq hzx,
          tiesWith_cons_of_ne hzy]
      · rw [tiesWith_cons_of_ne hzx] at ih ⊢
        exact tiesWith_cons_congr ih
    · rfl

theorem descending_insertDescending (h : ys.Pairwise fun a b => (order b a).isLE) (x : α) :
    (insertDescending order x ys).Pairwise fun a b => (order b a).isLE := by
  induction ys with
  | nil => exact List.pairwise_singleton _ _
  | cons y ys ih =>
    obtain ⟨hy, hys⟩ := List.pairwise_cons.mp h
    rw [insertDescending]
    split
    · next hlt =>
      refine List.pairwise_cons.mpr ⟨fun z hz => ?_, ih hys⟩
      rcases List.mem_cons.mp ((perm_insertDescending order x ys).mem_iff.mp hz) with rfl | hmem
      · rw [Ordering.isLT_iff_eq_lt.mp hlt]
        rfl
      · exact hy z hmem
    · next hlt =>
      have hyx : (order y x).isLE := by
        have hswap : order y x = (order x y).swap := Std.OrientedCmp.eq_swap
        rw [hswap]
        cases hxy : order x y with
        | lt => exact absurd (by rw [hxy]; rfl) hlt
        | eq => rfl
        | gt => rfl
      refine List.pairwise_cons.mpr ⟨fun z hz => ?_, h⟩
      rcases List.mem_cons.mp hz with rfl | hmem
      · exact hyx
      · exact Std.TransCmp.isLE_trans (hy z hmem) hyx

/-- One more element is sorted in. -/
theorem IsStableSort.insert (h : IsStableSort order xs ys.reverse) (x : α) :
    IsStableSort order (xs ++ [x]) (insertDescending order x ys).reverse := by
  refine ⟨?_, ?_, fun z => ?_⟩
  · have hperm : ys.Perm xs := ys.reverse_perm.symm.trans h.perm
    calc (insertDescending order x ys).reverse.Perm (insertDescending order x ys) :=
          List.reverse_perm _
      _ |>.Perm (x :: ys) := perm_insertDescending order x ys
      _ |>.Perm (x :: xs) := hperm.cons x
      _ |>.Perm (xs ++ [x]) := (List.perm_append_singleton x xs).symm
  · exact List.pairwise_reverse.mpr
      (descending_insertDescending (List.pairwise_reverse.mp h.ascending) x)
  · have hties := h.ties z
    rw [tiesWith_reverse] at hties ⊢
    rw [tiesWith_insertDescending, tiesWith_append, ← hties]
    by_cases hzx : order z x = .eq
    · rw [tiesWith_cons_of_eq hzx, tiesWith_cons_of_eq hzx, List.reverse_cons]
      rfl
    · rw [tiesWith_cons_of_ne hzx, tiesWith_cons_of_ne hzx]
      exact (List.append_nil _).symm

theorem isStableSort_foldl (h : IsStableSort order xs ys.reverse) (more : List α) :
    IsStableSort order (xs ++ more)
      (more.foldl (fun sorted x => insertDescending order x sorted) ys).reverse := by
  induction more generalizing xs ys with
  | nil => rwa [List.append_nil]
  | cons x more ih =>
    rw [List.foldl_cons, List.append_cons]
    exact ih (h.insert x)

/-- Sorting is stable. -/
theorem isStableSort_sortBy (xs : List α) : IsStableSort order xs (sortBy order xs) := by
  have hempty : IsStableSort order [] ([] : List α).reverse := ⟨.nil, .nil, fun _ => rfl⟩
  exact isStableSort_foldl hempty xs

end Insertion

end StableSort

/-! ### The order of documents -/

instance : Std.TransCmp Value.order where
  eq_swap := (Value.order_swap _ _).symm
  isLE_trans {a b c} hab hbc := by
    rw [Value.order_chains a b c hab hbc]
    cases h : a.order b with
    | lt => rfl
    | eq => exact hbc
    | gt =>
      rw [h] at hab
      cases hab

namespace SortKey

theorem order_descending (path : String) (a b : Value) :
    order ⟨path, .descending⟩ a b = (b.atPath path).order (a.atPath path) :=
  Value.order_swap _ _

instance (key : SortKey) : Std.TransCmp key.order := by
  obtain ⟨path, direction⟩ := key
  cases direction with
  | ascending =>
    have hvalues : Std.TransCmp Value.order := inferInstance
    exact { eq_swap := hvalues.eq_swap, isLE_trans := hvalues.isLE_trans }
  | descending =>
    refine { eq_swap := ?_, isLE_trans := ?_ }
    · intro a b
      rw [order_descending, order_descending]
      exact Std.OrientedCmp.eq_swap
    · intro a b c hab hbc
      rw [order_descending] at hab hbc ⊢
      exact Std.TransCmp.isLE_trans hbc hab

/-- No key tells the documents apart. -/
def allTie (keys : List SortKey) (a b : Value) : Bool :=
  keys.all fun key => key.order a b == .eq

end SortKey

theorem sortOrder_cons (key : SortKey) (keys : List SortKey) :
    sortOrder (key :: keys) = compareLex key.order (sortOrder keys) := rfl

instance (keys : List SortKey) : Std.TransCmp (sortOrder keys) := by
  induction keys with
  | nil => exact { eq_swap := rfl, isLE_trans := fun _ _ => rfl }
  | cons key keys ih =>
    rw [sortOrder_cons]
    infer_instance

theorem sortOrder_append (ks js : List SortKey) (a b : Value) :
    sortOrder (ks ++ js) a b = (sortOrder ks a b).then (sortOrder js a b) := by
  induction ks with
  | nil => rfl
  | cons key ks ih =>
    rw [List.cons_append, sortOrder_cons, sortOrder_cons, compareLex, compareLex, ih,
      Ordering.then_assoc]

theorem sortOrder_beq_eq (keys : List SortKey) (a b : Value) :
    (sortOrder keys a b == .eq) = SortKey.allTie keys a b := by
  induction keys with
  | nil => rfl
  | cons key keys ih =>
    rw [sortOrder_cons, compareLex, SortKey.allTie, List.all_cons, ← SortKey.allTie, ← ih]
    cases key.order a b <;> rfl

/-! ### Sorting by several keys -/

theorem isStableSort_sortDocuments (keys : List SortKey) (documents : List Value) :
    IsStableSort (sortOrder keys) documents (sortDocuments keys documents) :=
  isStableSort_sortBy documents

theorem sortDocuments_append (ks js : List SortKey) (documents : List Value) :
    sortDocuments (ks ++ js) documents = sortDocuments ks (sortDocuments js documents) := by
  have hboth := (isStableSort_sortDocuments js documents).comp
    (isStableSort_sortDocuments ks (sortDocuments js documents))
  have hsame : sortOrder (ks ++ js) = fun a b => (sortOrder ks a b).then (sortOrder js a b) :=
    funext fun a => funext fun b => sortOrder_append ks js a b
  rw [← hsame] at hboth
  exact (isStableSort_sortDocuments (ks ++ js) documents).unique hboth

/-- **Sorting by several keys is sorting by the last ones first**, whatever the directions and
whatever the documents have at the paths.  The documents are all there afterwards, in the order that
the first key that tells two of them apart says, and those that no key tells apart stand as they
did. -/
theorem Stage.run_sort_append (ks js : List SortKey) (documents : List Value) :
    (Stage.sort (ks ++ js)).run documents
        = ((Stage.sort js).run documents >>= (Stage.sort ks).run)
      ∧ ∃ sorted, (Stage.sort (ks ++ js)).run documents = .ok sorted
        ∧ sorted.Perm documents
        ∧ sorted.Pairwise (fun a b => sortOrder (ks ++ js) a b ≠ .gt)
        ∧ ∀ d, sorted.filter (SortKey.allTie (ks ++ js) d)
            = documents.filter (SortKey.allTie (ks ++ js) d) := by
  have hsorted := isStableSort_sortDocuments (ks ++ js) documents
  refine ⟨?_, _, rfl, hsorted.perm, ?_, fun d => ?_⟩
  · exact congrArg Except.ok (sortDocuments_append ks js documents)
  · exact hsorted.ascending.imp Ordering.isLE_iff_ne_gt.mp
  · have htie : SortKey.allTie (ks ++ js) d = fun e => sortOrder (ks ++ js) d e == .eq :=
      funext fun e => (sortOrder_beq_eq (ks ++ js) d e).symm
    rw [htie]
    exact hsorted.ties d

end DocQuery
