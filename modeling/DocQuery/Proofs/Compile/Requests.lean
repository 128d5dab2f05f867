import DocQuery.Proofs.Compile.Cache

/-!
# Caches after any requests

A cache that has started empty holds no more entries than its bound allows, each under a fingerprint
of its own, whatever it has been asked for and whichever entries it has given up.  So at most one
entry has to make room for a new one, and the other ones keep their handles.

## Main definitions

* `Cache.Request`, `Cache.run` — requests, and a cache after some of them.
* `Cache.Sound` — what holds of a cache at any time.
* `Cache.AnswersOnce` — how a cache answers and what it keeps.

## Main results

* `Cache.sound_run` — a cache is sound after any requests.
* `Cache.run_answersOnce` — **a cache keeps to its bound and compiles each kept text once.**
-/

namespace DocQuery

namespace Cache

/-! ### Entries under distinct fingerprints -/

theorem lookup_eq_none_of_notMem {key : UInt64} {entries : List (UInt64 × Handle)}
    (h : key ∉ entries.map (·.1)) : entries.lookup key = none := by
  rw [List.lookup_eq_none_iff]
  intro entry hentry
  rw [bne_iff_ne]
  rintro rfl
  exact h (List.mem_map_of_mem hentry)

/-- Where each fingerprint stands once, its entry is all that is lost when it is erased. -/
theorem lookup_eraseP {entries : List (UInt64 × Handle)} (h : (entries.map (·.1)).Nodup)
    (erased key : UInt64) :
    (entries.eraseP (·.1 == erased)).lookup key
      = if key = erased then none else entries.lookup key := by
  induction entries with
  | nil => simp
  | cons entry entries ih =>
    obtain ⟨k, handle⟩ := entry
    obtain ⟨hnotMem, hnodup⟩ := List.nodup_cons.mp h
    by_cases hhead : k = erased
    · -- the head goes, and its fingerprint does not stand again behind it
      subst hhead
      have herase : ((k, handle) :: entries).eraseP (·.1 == k) = entries := by simp
      rw [herase]
      by_cases hkey : key = k
      · rw [if_pos hkey, hkey]
        exact lookup_eq_none_of_notMem hnotMem
      · rw [if_neg hkey, List.lookup_cons, beq_false_of_ne hkey]
    · have herase : ((k, handle) :: entries).eraseP (·.1 == erased)
          = (k, handle) :: entries.eraseP (·.1 == erased) := by simp [hhead]
      rw [herase, List.lookup_cons, List.lookup_cons, ih hnodup]
      by_cases hkey : key = k
      · subst hkey
        simp [hhead]
      · simp [beq_false_of_ne hkey]

/-! ### Requests one after the other -/

/-- A request to a cache. -/
inductive Request where
  /-- Asks for a text under a fingerprint, with the means to compile it. -/
  | getOrCompile (choice : Choice) (serial : Nat) (fingerprint : UInt64) (source : String)
      (compile : Unit → Except CompileError Compiled)
  | clear

/-- The cache after a request. -/
def after (c : Cache) : Request → Cache
  | .getOrCompile choice serial fingerprint source compile =>
    (c.getOrCompile choice serial fingerprint source compile).cache
  | .clear => c.clear

/-- The cache after requests, one after the other. -/
def run (c : Cache) (requests : List Request) : Cache :=
  requests.foldl after c

/-- What holds of a cache at any time. -/
structure Sound (c : Cache) : Prop where
  bounded : c.size ≤ c.capacity
  distinct : (c.entries.map (·.1)).Nodup

theorem sound_empty (capacity : Nat) : (empty capacity).Sound :=
  ⟨Nat.zero_le _, List.nodup_nil⟩

theorem capacity_withRoom (c : Cache) (choice : Choice) (fingerprint : UInt64) :
    (c.withRoom choice fingerprint).capacity = c.capacity := by
  rw [withRoom]
  split <;> rfl

variable {c : Cache}

theorem Sound.withRoom (hc : c.Sound) (choice : Choice) (fingerprint : UInt64) :
    (c.withRoom choice fingerprint).Sound := by
  rw [Cache.withRoom]
  split
  · exact hc
  · have hsub := makeRoom_sublist choice c.capacity fingerprint c.entries
    exact ⟨Nat.le_trans hsub.length_le hc.bounded, hc.distinct.sublist (hsub.map _)⟩

/-- A new entry fits where room has been made for it. -/
theorem Sound.insert (hc : c.Sound) (choice : Choice) {fingerprint : UInt64} (handle : Handle)
    (hcapacity : c.capacity ≠ 0) (hnew : c.get? fingerprint = none) :
    ((c.withRoom choice fingerprint).insert fingerprint handle).Sound := by
  have hroom := hc.withRoom choice fingerprint
  constructor
  · -- making room leaves fewer entries than the bound allows
    have hsize := size_withRoom_of_new choice hnew
    have hbound := capacity_withRoom c choice fingerprint
    simp only [size, Cache.insert, List.length_append, List.length_singleton] at hsize ⊢
    omega
  · -- none of the entries that stay has the new fingerprint
    have hstays := get?_eq_none_iff.mp (get?_withRoom_of_new choice hnew)
    rw [Cache.insert, List.map_append, List.nodup_append]
    refine ⟨hroom.distinct, by simp, ?_⟩
    intro key hkey other hother
    obtain ⟨entry, hentry, rfl⟩ := List.mem_map.mp hkey
    rw [List.mem_singleton.mp hother]
    exact hstays entry hentry

theorem capacity_after (c : Cache) (request : Request) : (c.after request).capacity = c.capacity := by
  cases request with
  | clear => rfl
  | getOrCompile choice serial fingerprint source compile =>
    rw [after]
    generalize h : (c.getOrCompile choice serial fingerprint source compile).cache = left
    rcases cache_getOrCompile_cases choice serial compile h with
      rfl | ⟨-, -, rfl | ⟨compiled, -, rfl⟩⟩
    · rfl
    · exact capacity_withRoom c choice fingerprint
    · exact capacity_withRoom c choice fingerprint

theorem Sound.after (hc : c.Sound) (request : Request) : (c.after request).Sound := by
  cases request with
  | clear => exact ⟨Nat.zero_le _, List.nodup_nil⟩
  | getOrCompile choice serial fingerprint source compile =>
    rw [Cache.after]
    generalize h : (c.getOrCompile choice serial fingerprint source compile).cache = left
    rcases cache_getOrCompile_cases choice serial compile h with
      rfl | ⟨hcapacity, hnew, rfl | ⟨compiled, -, rfl⟩⟩
    · exact hc
    · exact hc.withRoom choice fingerprint
    · exact hc.insert choice _ hcapacity hnew

theorem capacity_run (c : Cache) (requests : List Request) : (c.run requests).capacity = c.capacity := by
  induction requests generalizing c with
  | nil => rfl
  | cons request requests ih => exact (ih (c.after request)).trans (capacity_after c request)

theorem sound_run (hc : c.Sound) (requests : List Request) : (c.run requests).Sound := by
  induction requests generalizing c with
  | nil => exact hc
  | cons request requests ih => exact ih (hc.after request)

/-! ### What stays -/

/-- At most one entry makes room for a new one, and none if there is room. -/
theorem Sound.exists_victim (hc : c.Sound) (choice : Choice) {fingerprint : UInt64}
    (hcapacity : c.capacity ≠ 0) (hnew : c.get? fingerprint = none) :
    ∃ victim : Option UInt64, (c.size < c.capacity → victim = none) ∧
      ∀ key, (c.withRoom choice fingerprint).get? key
        = if victim = some key then none else c.get? key := by
  by_cases hroom : c.size < c.capacity
  · refine ⟨none, fun _ => rfl, fun key => ?_⟩
    rw [withRoom_of_size_lt choice fingerprint hroom, if_neg nofun]
  · have hfull : c.capacity ≤ c.entries.length := Nat.le_of_not_lt hroom
    have hbounded : c.entries.length ≤ c.capacity := hc.bounded
    cases hround : evictOne? choice fingerprint c.entries with
    | none =>
      -- a full cache with no entry to give up would have no capacity
      have hempty : c.entries = [] := by
        refine List.eq_nil_iff_forall_not_mem.mpr fun entry hentry => ?_
        exact get?_eq_none_iff.mp hnew entry hentry (evictOne?_eq_none_iff.mp hround entry hentry)
      rw [hempty, List.length_nil] at hfull
      omega
    | some rest =>
      obtain ⟨entry, -, -, hrest⟩ := exists_mem_of_evictOne? hround
      have hlength := length_of_evictOne? hround
      -- the bound was kept until now, so one round is enough
      have hdone : makeRoom choice c.capacity fingerprint c.entries = rest := by
        rw [makeRoom_of_evictOne? hfull hround, makeRoom_of_lt (by omega)]
      refine ⟨some entry.1, fun h => absurd h hroom, fun key => ?_⟩
      rw [withRoom_of_new choice hnew, get?, hdone, hrest, lookup_eraseP hc.distinct, get?]
      simp [eq_comm]

/-- A new entry stands beside those that are there. -/
theorem get?_insert (handle : Handle) {fingerprint : UInt64} (hnew : c.get? fingerprint = none)
    (key : UInt64) :
    (c.insert fingerprint handle).get? key
      = if key = fingerprint then some handle else c.get? key := by
  rw [get?, Cache.insert, List.lookup_append]
  by_cases hkey : key = fingerprint
  · subst hkey
    rw [get?] at hnew
    simp [hnew]
  · have hother : [(fingerprint, handle)].lookup key = none := by
      rw [List.lookup_cons, beq_false_of_ne hkey, List.lookup_nil]
    rw [hother, Option.or_none, if_neg hkey, get?]

/-- How a cache answers requests, and what it keeps. -/
structure AnswersOnce (c : Cache) : Prop where
  /-- What is kept for a text comes back, whatever its compilation would be; nothing changes. -/
  stored : ∀ choice serial fingerprint source compile handle,
    c.get? fingerprint = some handle → handle.compiled.source = source →
      c.getOrCompile choice serial fingerprint source compile = ⟨c, .ok handle, false⟩
  /-- A text under the fingerprint of another one is compiled, and nothing changes. -/
  other : ∀ choice serial fingerprint source compile handle,
    c.get? fingerprint = some handle → handle.compiled.source ≠ source →
      c.getOrCompile choice serial fingerprint source compile
        = ⟨c, (compile ()).map (⟨serial, ·⟩), true⟩
  /-- A text that compiles under a new fingerprint is kept.  One entry may be given up for it, if
  there is no room; all other ones stay. -/
  new : ∀ choice serial fingerprint source compile compiled,
    c.capacity ≠ 0 → c.get? fingerprint = none → compile () = .ok compiled →
      let outcome := c.getOrCompile choice serial fingerprint source compile
      outcome.result = .ok ⟨serial, compiled⟩ ∧ outcome.ran = true ∧
        ∃ victim : Option UInt64, (c.size < c.capacity → victim = none) ∧
          ∀ key, outcome.cache.get? key
            = if key = fingerprint then some ⟨serial, compiled⟩
              else if victim = some key then none else c.get? key

theorem Sound.answersOnce (hc : c.Sound) : c.AnswersOnce where
  stored := by
    intro choice serial fingerprint source compile handle hstored hsource
    -- without capacity there would be no entry to come back
    have hcapacity : c.capacity ≠ 0 := by
      intro hzero
      have hbounded := hc.bounded
      have hempty : c.entries = [] := by
        rw [hzero] at hbounded
        exact List.length_eq_zero_iff.mp (Nat.le_zero.mp hbounded)
      rw [get?, hempty] at hstored
      cases hstored
    exact getOrCompile_of_stored choice serial compile hcapacity hstored hsource
  other := by
    intro choice serial fingerprint source compile handle hstored hsource
    exact getOrCompile_of_other choice serial compile hstored hsource
  new := by
    intro choice serial fingerprint source compile compiled hcapacity hnew hcompile
    obtain ⟨victim, hvictim, hget⟩ := hc.exists_victim choice hcapacity hnew
    rw [getOrCompile_of_new choice serial compile source hcapacity hnew hcompile]
    refine ⟨rfl, rfl, victim, hvictim, fun key => ?_⟩
    rw [get?_insert _ (get?_withRoom_of_new choice hnew), hget]

/-- After any requests to a cache that started empty, it holds no more entries than it may, and none
if it may hold none.  It gives back what it keeps without compiling it, compiles any other text once
and keeps it only under a new fingerprint.  Making room for it is a sequence of rounds that cannot
go on for ever, whichever entries are given up, and ends where no round is left. -/
theorem run_answersOnce (capacity : Nat) (requests : List Request) :
    let c := (empty capacity).run requests
    c.size ≤ capacity ∧ (capacity = 0 → c.entries = []) ∧ c.AnswersOnce ∧
      (∀ keep, WellFounded fun after before => EvictionRound capacity keep before after) ∧
      ∀ choice keep entries,
        Relation.ReflTransGen (EvictionRound capacity keep) entries
          (makeRoom choice capacity keep entries) ∧
        ∀ after, ¬ EvictionRound capacity keep (makeRoom choice capacity keep entries) after := by
  intro c
  have hsound : c.Sound := sound_run (sound_empty capacity) requests
  have hcapacity : c.capacity = capacity := capacity_run (empty capacity) requests
  have hbounded : c.size ≤ capacity := hcapacity ▸ hsound.bounded
  refine ⟨hbounded, ?_, hsound.answersOnce, evictionRound_wellFounded capacity, ?_⟩
  · rintro rfl
    exact List.length_eq_zero_iff.mp (Nat.le_zero.mp hbounded)
  · intro choice keep entries
    exact ⟨reflTransGen_makeRoom choice capacity keep entries,
      not_evictionRound_makeRoom choice capacity keep entries⟩

/-- A cache of one entry after a request: the text that it keeps comes back, another text under the
same fingerprint is not kept, and one under another fingerprint takes the place of the entry. -/
theorem run_answersOnce_full :
    let compiled (text : String) : Compiled := ⟨text, .condition, ⟨[.limit 1]⟩⟩
    let ask (serial : Nat) (fingerprint : UInt64) (text : String) : Request :=
      .getOrCompile (fun _ => 0) serial fingerprint text fun _ => .ok (compiled text)
    let c := (empty 1).run [.clear, ask 0 7 "$.a"]
    (c.get? 7 = some ⟨0, compiled "$.a"⟩ ∧ c.get? 8 = none ∧ c.capacity ≠ 0) ∧
      c.getOrCompile (fun _ => 0) 1 7 "$.a" (fun _ => .ok (compiled "$.a"))
        = ⟨c, .ok ⟨0, compiled "$.a"⟩, false⟩ ∧
      c.getOrCompile (fun _ => 0) 1 7 "$.b" (fun _ => .ok (compiled "$.b"))
        = ⟨c, .ok ⟨1, compiled "$.b"⟩, true⟩ ∧
      (c.getOrCompile (fun _ => 0) 1 8 "$.b" (fun _ => .ok (compiled "$.b"))).result
        = .ok ⟨1, compiled "$.b"⟩ := by
  intro compiled ask c
  have hc : c = ⟨1, [(7, ⟨0, compiled "$.a"⟩)]⟩ :=
    congrArg Lookup.cache (getOrCompile_empty _ 0 _ Nat.one_pos 7 "$.a" rfl)
  have hkept : c.get? 7 = some ⟨0, compiled "$.a"⟩ := by
    rw [hc]
    rfl
  have hfree : c.get? 8 = none := by
    rw [hc]
    rfl
  have hcapacity : c.capacity ≠ 0 := by
    rw [hc]
    decide
  have hanswers : c.AnswersOnce := (run_answersOnce 1 [.clear, ask 0 7 "$.a"]).2.2.1
  refine ⟨⟨hkept, hfree, hcapacity⟩, ?_, ?_, ?_⟩
  · exact hanswers.stored _ _ _ _ _ _ hkept rfl
  · exact hanswers.other _ _ _ _ _ _ hkept (by decide)
  · exact (hanswers.new _ _ _ _ _ _ hcapacity hfree rfl).1

end Cache

end DocQuery
