import DocQuery.Compile.Cache
import Mathlib.Logic.Relation

/-!
# What a request does to a cache

Room for a new entry is made before the text is compiled, so a compilation that fails can still
cost entries.  It costs nothing else: whatever a request leads to, the entries that stay keep their
handles, and an entry is added only for a text that was compiled under a new fingerprint.

## Main definitions

* `Cache.EvictionRound` — a round of eviction, whichever entry it gives up.

## Main results

* `Cache.evictionRound_wellFounded` — rounds of eviction come to an end.
* `Cache.length_makeRoom` — how many entries are left then.
* `Cache.getOrCompile_of_stored`, `Cache.getOrCompile_of_other`, `Cache.getOrCompile_of_new` — what
  a request leads to.
* `Cache.cache_getOrCompile_cases` — the ways in which a request changes the cache.
* `Cache.getOrCompile_of_error` — **what a failed compilation leaves.**
-/

namespace DocQuery

namespace Cache

/-! ### Rounds of eviction -/

section Eviction

variable {choice : Choice} {capacity : Nat} {keep : UInt64} {entries : List (UInt64 × Handle)}

/-- Eviction finds no entry to give up only if there is none under another fingerprint. -/
theorem evictOne?_eq_none_iff :
    evictOne? choice keep entries = none ↔ ∀ entry ∈ entries, entry.1 = keep := by
  rw [evictOne?, Option.map_eq_none_iff, victim?, Option.map_eq_none_iff, List.getElem?_eq_none_iff]
  constructor
  · intro h entry hentry
    refine Decidable.byContradiction fun hother => ?_
    -- another entry makes the list of those to choose from non-empty, and the place one in it
    have hmem : entry ∈ entries.filter (·.1 != keep) :=
      List.mem_filter.mpr ⟨hentry, bne_iff_ne.mpr hother⟩
    have hplace := Nat.mod_lt (choice (entries.filter (·.1 != keep))) (List.length_pos_of_mem hmem)
    omega
  · intro h
    have hnone : entries.filter (·.1 != keep) = [] := by
      refine List.filter_eq_nil_iff.mpr fun entry hentry => ?_
      simp [h entry hentry]
    simp [hnone]

theorem makeRoom_of_lt (hroom : entries.length < capacity) :
    makeRoom choice capacity keep entries = entries := by
  rw [makeRoom, if_pos hroom]

theorem makeRoom_of_evictOne? {rest : List (UInt64 × Handle)} (hfull : capacity ≤ entries.length)
    (hround : evictOne? choice keep entries = some rest) :
    makeRoom choice capacity keep entries = makeRoom choice capacity keep rest := by
  rw [makeRoom, if_neg (Nat.not_lt_of_le hfull)]
  split
  · next other hother => rw [Option.some.inj (hother.symm.trans hround)]
  · next hnone => cases hnone.symm.trans hround

/-- A round of eviction: there is no room for a further entry, and one under another fingerprint
than `keep` is given up, whichever is chosen. -/
def EvictionRound (capacity : Nat) (keep : UInt64) (before after : List (UInt64 × Handle)) : Prop :=
  capacity ≤ before.length ∧ ∃ choice, evictOne? choice keep before = some after

theorem evictionRound_wellFounded (capacity : Nat) (keep : UInt64) :
    WellFounded fun after before => EvictionRound capacity keep before after := by
  refine Subrelation.wf ?_ (measure List.length).wf
  rintro after before ⟨-, choice, hround⟩
  have hlength := length_of_evictOne? hround
  exact Nat.lt_of_lt_of_eq after.length.lt_succ_self hlength

/-- Making room takes rounds of eviction. -/
theorem reflTransGen_makeRoom (choice : Choice) (capacity : Nat) (keep : UInt64)
    (entries : List (UInt64 × Handle)) :
    Relation.ReflTransGen (EvictionRound capacity keep) entries
      (makeRoom choice capacity keep entries) := by
  fun_induction makeRoom with
  | case1 => exact .refl
  | case2 entries hfull rest hround ih => exact .head ⟨Nat.le_of_not_lt hfull, choice, hround⟩ ih
  | case3 => exact .refl

/-- When room has been made, no round of eviction is left to be taken. -/
theorem not_evictionRound_makeRoom (choice : Choice) (capacity : Nat) (keep : UInt64)
    (entries after : List (UInt64 × Handle)) :
    ¬ EvictionRound capacity keep (makeRoom choice capacity keep entries) after := by
  fun_induction makeRoom with
  | case1 entries hroom =>
    rintro ⟨hfull, -⟩
    omega
  | case2 entries hfull rest hround ih => exact ih
  | case3 entries hfull hnone =>
    -- one choice finds nothing only where every choice does
    rintro ⟨-, other, hround⟩
    rw [evictOne?_eq_none_iff.mpr (evictOne?_eq_none_iff.mp hnone)] at hround
    cases hround

theorem makeRoom_sublist (choice : Choice) (capacity : Nat) (keep : UInt64)
    (entries : List (UInt64 × Handle)) :
    (makeRoom choice capacity keep entries).Sublist entries := by
  fun_induction makeRoom with
  | case1 => exact .refl _
  | case2 entries hfull rest hround ih =>
    obtain ⟨entry, -, -, rfl⟩ := exists_mem_of_evictOne? hround
    exact ih.trans List.eraseP_sublist
  | case3 => exact .refl _

/-- For a new fingerprint, as many entries are given up as it takes for one more to fit. -/
theorem length_makeRoom (choice : Choice) (capacity : Nat) (hkeep : ∀ entry ∈ entries, entry.1 ≠ keep) :
    (makeRoom choice capacity keep entries).length = min entries.length (capacity - 1) := by
  fun_induction makeRoom with
  | case1 entries hroom => omega
  | case2 entries hfull rest hround ih =>
    obtain ⟨entry, -, -, rfl⟩ := exists_mem_of_evictOne? hround
    have hlength := length_of_evictOne? hround
    rw [ih fun e he => hkeep e (List.mem_of_mem_eraseP he)]
    -- there was one entry more than `rest` has, and at least `capacity` of them
    omega
  | case3 entries hfull hnone =>
    -- nothing can be given up, so there is nothing
    have hempty : entries = [] := by
      refine List.eq_nil_iff_forall_not_mem.mpr fun entry hentry => ?_
      exact hkeep entry hentry (evictOne?_eq_none_iff.mp hnone entry hentry)
    simp [hempty]

end Eviction

/-! ### Requests -/

section Requests

variable {c : Cache} {fingerprint : UInt64} {source : String} {handle : Handle}

theorem get?_eq_none_iff : c.get? fingerprint = none ↔ ∀ entry ∈ c.entries, entry.1 ≠ fingerprint := by
  rw [get?, List.lookup_eq_none_iff]
  refine forall₂_congr fun entry _ => ?_
  rw [bne_iff_ne, ne_comm]

theorem withRoom_of_stored (choice : Choice) (h : c.get? fingerprint = some handle) :
    c.withRoom choice fingerprint = c := by
  rw [withRoom, contains, h]
  rfl

theorem withRoom_of_new (choice : Choice) (h : c.get? fingerprint = none) :
    c.withRoom choice fingerprint
      = { c with entries := makeRoom choice c.capacity fingerprint c.entries } := by
  rw [withRoom, contains, h]
  rfl

/-- Making room under a new fingerprint does not bring an entry under it. -/
theorem get?_withRoom_of_new (choice : Choice) (h : c.get? fingerprint = none) :
    (c.withRoom choice fingerprint).get? fingerprint = none := by
  rw [withRoom_of_new choice h, get?_eq_none_iff]
  intro entry hentry
  exact get?_eq_none_iff.mp h entry ((makeRoom_sublist ..).subset hentry)

theorem size_withRoom_of_new (choice : Choice) (h : c.get? fingerprint = none) :
    (c.withRoom choice fingerprint).size = min c.size (c.capacity - 1) := by
  rw [withRoom_of_new choice h]
  exact length_makeRoom choice c.capacity (get?_eq_none_iff.mp h)

/-- A cache in which there is room is left as it is. -/
theorem withRoom_of_size_lt (choice : Choice) (fingerprint : UInt64) (h : c.size < c.capacity) :
    c.withRoom choice fingerprint = c := by
  have hlength : c.entries.length < c.capacity := h
  rw [withRoom]
  split
  · rfl
  · rw [makeRoom_of_lt hlength]

variable (choice : Choice) (serial : Nat) (compile : Unit → Except CompileError Compiled)

/-- A cache without capacity keeps nothing. -/
theorem getOrCompile_of_capacity_eq_zero (fingerprint : UInt64) (source : String)
    (h : c.capacity = 0) :
    c.getOrCompile choice serial fingerprint source compile = c.compileFresh serial (compile ()) := by
  rw [getOrCompile, if_pos h]

/-- What is kept for the text comes back, and nothing is compiled. -/
theorem getOrCompile_of_stored (hcapacity : c.capacity ≠ 0) (h : c.get? fingerprint = some handle)
    (hsource : handle.compiled.source = source) :
    c.getOrCompile choice serial fingerprint source compile = ⟨c, .ok handle, false⟩ := by
  simp only [getOrCompile, if_neg hcapacity, withRoom_of_stored choice h, h, if_pos hsource]

/-- A text under the fingerprint of another one is compiled, and not kept. -/
theorem getOrCompile_of_other (h : c.get? fingerprint = some handle)
    (hsource : handle.compiled.source ≠ source) :
    c.getOrCompile choice serial fingerprint source compile = c.compileFresh serial (compile ()) := by
  by_cases hcapacity : c.capacity = 0
  · exact getOrCompile_of_capacity_eq_zero choice serial compile fingerprint source hcapacity
  · simp only [getOrCompile, if_neg hcapacity, withRoom_of_stored choice h, h, if_neg hsource]

/-- A text under a new fingerprint is compiled when room has been made, and kept. -/
theorem getOrCompile_of_new (source : String) (hcapacity : c.capacity ≠ 0)
    (h : c.get? fingerprint = none) {compiled : Compiled} (hcompile : compile () = .ok compiled) :
    c.getOrCompile choice serial fingerprint source compile
      = ⟨(c.withRoom choice fingerprint).insert fingerprint ⟨serial, compiled⟩,
          .ok ⟨serial, compiled⟩, true⟩ := by
  simp only [getOrCompile, if_neg hcapacity, get?_withRoom_of_new choice h, hcompile]

/-- The first text that compiles is kept, if anything is. -/
theorem getOrCompile_empty {capacity : Nat} (hcapacity : 0 < capacity) (fingerprint : UInt64)
    (source : String) {compiled : Compiled} (hcompile : compile () = .ok compiled) :
    (empty capacity).getOrCompile choice serial fingerprint source compile
      = ⟨⟨capacity, [(fingerprint, ⟨serial, compiled⟩)]⟩, .ok ⟨serial, compiled⟩, true⟩ := by
  have hpositive : (empty capacity).capacity ≠ 0 := Nat.ne_of_gt hcapacity
  rw [getOrCompile_of_new choice serial compile source hpositive rfl hcompile,
    withRoom_of_size_lt (c := empty capacity) choice fingerprint hcapacity]
  rfl

/-- Room is made for a text under a new fingerprint also if it cannot be compiled. -/
theorem getOrCompile_of_new_error (source : String) (hcapacity : c.capacity ≠ 0)
    (h : c.get? fingerprint = none) {e : CompileError} (hcompile : compile () = .error e) :
    c.getOrCompile choice serial fingerprint source compile
      = ⟨c.withRoom choice fingerprint, .error e, true⟩ := by
  simp only [getOrCompile, if_neg hcapacity, get?_withRoom_of_new choice h, hcompile]

/-- The ways in which a request changes the cache: only one under a new fingerprint does. -/
theorem cache_getOrCompile_cases {fingerprint : UInt64} {source : String} {after : Cache}
    (h : (c.getOrCompile choice serial fingerprint source compile).cache = after) :
    after = c ∨ c.capacity ≠ 0 ∧ c.get? fingerprint = none ∧
      (after = c.withRoom choice fingerprint ∨ ∃ compiled, compile () = .ok compiled ∧
        after = (c.withRoom choice fingerprint).insert fingerprint ⟨serial, compiled⟩) := by
  by_cases hcapacity : c.capacity = 0
  · rw [getOrCompile_of_capacity_eq_zero choice serial compile _ _ hcapacity] at h
    exact .inl h.symm
  · cases hstored : c.get? fingerprint with
    | some handle =>
      by_cases hsource : handle.compiled.source = source
      · rw [getOrCompile_of_stored choice serial compile hcapacity hstored hsource] at h
        exact .inl h.symm
      · rw [getOrCompile_of_other choice serial compile hstored hsource] at h
        exact .inl h.symm
    | none =>
      refine .inr ⟨hcapacity, rfl, ?_⟩
      cases hcompile : compile () with
      | error e =>
        rw [getOrCompile_of_new_error choice serial compile source hcapacity hstored hcompile] at h
        exact .inl h.symm
      | ok compiled =>
        rw [getOrCompile_of_new choice serial compile source hcapacity hstored hcompile] at h
        exact .inr ⟨compiled, rfl, h.symm⟩

theorem compileFresh_error (serial : Nat) {compiled : Except CompileError Compiled} {e : CompileError}
    (h : compiled = .error e) : c.compileFresh serial compiled = ⟨c, .error e, true⟩ := by
  rw [compileFresh, h]
  rfl

end Requests

/-! ### Failed compilations -/

/-- A request whose text cannot be compiled.  If the text is kept it is not compiled, and what is
kept comes back.  Otherwise the error comes back and the cache stays as it is, unless room had to
be made under a new fingerprint: then the entries that did not fit beside a further one are gone,
and the others stay with their handles. -/
theorem getOrCompile_of_error (c : Cache) (choice : Choice) (serial : Nat) (fingerprint : UInt64)
    (source : String) {compile : Unit → Except CompileError Compiled} {e : CompileError}
    (hcompile : compile () = .error e) :
    (∀ handle, c.capacity ≠ 0 → c.get? fingerprint = some handle →
      handle.compiled.source = source →
        c.getOrCompile choice serial fingerprint source compile = ⟨c, .ok handle, false⟩) ∧
    ((c.capacity = 0 ∨ (c.get? fingerprint = none ∧ c.size < c.capacity) ∨
      ∃ handle, c.get? fingerprint = some handle ∧ handle.compiled.source ≠ source) →
        c.getOrCompile choice serial fingerprint source compile = ⟨c, .error e, true⟩) ∧
    (c.capacity ≠ 0 → c.get? fingerprint = none → c.capacity ≤ c.size →
      ∃ rest, c.getOrCompile choice serial fingerprint source compile
          = ⟨{ c with entries := rest }, .error e, true⟩ ∧
        rest.Sublist c.entries ∧ rest.length = c.capacity - 1) := by
  refine ⟨?_, ?_, ?_⟩
  · intro handle hcapacity hstored hsource
    exact getOrCompile_of_stored choice serial compile hcapacity hstored hsource
  · rintro (hzero | ⟨hnew, hroom⟩ | ⟨handle, hstored, hsource⟩)
    · rw [getOrCompile_of_capacity_eq_zero choice serial compile _ _ hzero]
      exact compileFresh_error serial hcompile
    · have hcapacity : c.capacity ≠ 0 := by omega
      rw [getOrCompile_of_new_error choice serial compile source hcapacity hnew hcompile,
        withRoom_of_size_lt choice fingerprint hroom]
    · rw [getOrCompile_of_other choice serial compile hstored hsource]
      exact compileFresh_error serial hcompile
  · intro hcapacity hnew hfull
    refine ⟨makeRoom choice c.capacity fingerprint c.entries, ?_, makeRoom_sublist .., ?_⟩
    · rw [getOrCompile_of_new_error choice serial compile source hcapacity hnew hcompile,
        withRoom_of_new choice hnew]
    · -- the cache is full, so the bound and not the number of entries is what decides
      have hlength := length_makeRoom choice c.capacity (get?_eq_none_iff.mp hnew)
      rw [← size] at hlength
      omega

/-- A full cache of two, and a text under a third fingerprint that cannot be compiled. -/
theorem getOrCompile_of_error_full :
    let entry (n : UInt64) (text : String) : UInt64 × Handle :=
      (n, ⟨n.toNat, text, .condition, ⟨[.limit 1]⟩⟩)
    let c : Cache := ⟨2, [entry 1 "$.a == 1", entry 2 "$.b == 2"]⟩
    let error : CompileError := .parse (.unexpected .eof 1)
    let compile : Unit → Except CompileError Compiled := fun _ => .error error
    (compile () = .error error ∧ c.capacity ≠ 0 ∧ c.get? 3 = none ∧ c.capacity ≤ c.size) ∧
      ∃ rest, c.getOrCompile (fun _ => 1) 4 3 "(" compile
          = ⟨{ c with entries := rest }, .error error, true⟩ ∧
        rest.Sublist c.entries ∧ rest.length = 1 :=
  ⟨⟨rfl, by decide, rfl, by decide⟩,
    (getOrCompile_of_error _ _ _ 3 "(" rfl).2.2 (by decide) rfl (by decide)⟩

/-- The one entry of a full cache is given up for a text under another fingerprint that then turns
out not to compile: it is gone, and nothing takes its place. -/
theorem entries_getOrCompile_ne_of_error :
    let kept : Compiled := ⟨"$.a == 1", .condition,
      ⟨[.select (.field (.path "a") (.compare .eq (.int 1)))]⟩⟩
    let c := ((empty 1).getOrCompile (fun _ => 0) 0 1 "$.a == 1" fun _ => .ok kept).cache
    let error : CompileError := .parse (.unexpected .eof 1)
    let outcome := c.getOrCompile (fun _ => 0) 1 2 "(" fun _ => .error error
    c.entries = [(1, ⟨0, kept⟩)] ∧ outcome.result = .error error ∧
      outcome.cache.entries = [] ∧ outcome.cache.entries ≠ c.entries := by
  intro kept c error outcome
  have hc : c = ⟨1, [(1, ⟨0, kept⟩)]⟩ :=
    congrArg Lookup.cache (getOrCompile_empty _ 0 _ Nat.one_pos 1 "$.a == 1" rfl)
  have hnew : c.get? 2 = none := by
    rw [hc]
    rfl
  have houtcome : outcome = ⟨c.withRoom (fun _ => 0) 2, .error error, true⟩ :=
    getOrCompile_of_new_error _ _ _ _ (by rw [hc]; decide) hnew rfl
  have hgone : outcome.cache.entries = [] := by
    have hsize := size_withRoom_of_new (fun _ => 0) hnew
    rw [hc] at hsize
    rw [houtcome, hc]
    exact List.length_eq_zero_iff.mp hsize
  refine ⟨by rw [hc], by rw [houtcome], hgone, ?_⟩
  rw [hgone, hc]
  exact (List.cons_ne_nil _ _).symm

end Cache

end DocQuery
