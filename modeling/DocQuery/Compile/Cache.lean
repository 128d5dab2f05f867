import DocQuery.Compile.Basic

/-!
# A cache of compiled pipelines

What has been compiled is kept under its fingerprint, up to a bound.  A text that is compiled anew
gets a handle with a serial number, and what is kept comes back with the same handle.

When the cache is full, some other entry makes room for a new one; which one is left to a choice
that the caller makes.  A fingerprint under which another text is kept is compiled afresh and not
kept.  Neither is a failure.

## Main definitions

* `Handle` — a compiled pipeline, told apart by its serial number.
* `Cache` — the entries and their bound.
* `Cache.makeRoom` — the entries that stay when a further one has to fit.
* `Cache.getOrCompile` — what is kept under a fingerprint, or else what is compiled.
-/

namespace DocQuery

/-- A compiled pipeline, told apart from an equal one that was compiled at another time. -/
structure Handle where
  serial : Nat
  compiled : Compiled

/-- Compiled pipelines by fingerprint. -/
structure Cache where
  capacity : Nat
  entries : List (UInt64 × Handle)

/-- A choice among entries: the place of the one that is given up, counted round the list. -/
abbrev Choice := List (UInt64 × Handle) → Nat

namespace Cache

/-- A cache without entries. -/
def empty (capacity : Nat) : Cache :=
  ⟨capacity, []⟩

/-- The number of entries. -/
def size (c : Cache) : Nat :=
  c.entries.length

/-- The entry under a fingerprint. -/
def get? (c : Cache) (fingerprint : UInt64) : Option Handle :=
  c.entries.lookup fingerprint

/-- There is an entry under a fingerprint. -/
def contains (c : Cache) (fingerprint : UInt64) : Bool :=
  (c.get? fingerprint).isSome

/-- The cache without entries. -/
def clear (c : Cache) : Cache :=
  { c with entries := [] }

/-- The fingerprint of the entry that is given up: one other than `keep`, if there is any. -/
def victim? (choice : Choice) (keep : UInt64) (entries : List (UInt64 × Handle)) :
    Option UInt64 :=
  let others := entries.filter (·.1 != keep)
  others[choice others % others.length]?.map (·.1)

/-- The entries without the one that is given up, if there is one. -/
def evictOne? (choice : Choice) (keep : UInt64) (entries : List (UInt64 × Handle)) :
    Option (List (UInt64 × Handle)) :=
  (victim? choice keep entries).map fun key => entries.eraseP (·.1 == key)

/-- The entry that is given up is one of the entries, under another fingerprint than `keep`. -/
theorem exists_mem_of_evictOne? {choice : Choice} {keep : UInt64}
    {entries rest : List (UInt64 × Handle)} (h : evictOne? choice keep entries = some rest) :
    ∃ entry ∈ entries, entry.1 ≠ keep ∧ rest = entries.eraseP (·.1 == entry.1) := by
  obtain ⟨key, hkey, rfl⟩ := Option.map_eq_some_iff.mp h
  obtain ⟨entry, hentry, rfl⟩ := Option.map_eq_some_iff.mp hkey
  obtain ⟨hmem, hother⟩ := List.mem_filter.mp (List.mem_of_getElem? hentry)
  exact ⟨entry, hmem, bne_iff_ne.mp hother, rfl⟩

/-- Each round of eviction takes one entry away. -/
theorem length_of_evictOne? {choice : Choice} {keep : UInt64}
    {entries rest : List (UInt64 × Handle)} (h : evictOne? choice keep entries = some rest) :
    rest.length + 1 = entries.length := by
  obtain ⟨entry, hmem, -, rfl⟩ := exists_mem_of_evictOne? h
  have herased := List.length_eraseP_of_mem hmem (p := (·.1 == entry.1)) (beq_self_eq_true _)
  have hpos := List.length_pos_of_mem hmem
  omega

/-- The entries without as many as it takes for a further one to fit.  The one under `keep` stays,
and eviction ends when there is no other. -/
def makeRoom (choice : Choice) (capacity : Nat) (keep : UInt64)
    (entries : List (UInt64 × Handle)) : List (UInt64 × Handle) :=
  if entries.length < capacity then entries
  else
    match _ : evictOne? choice keep entries with
    | some rest => makeRoom choice capacity keep rest
    | none => entries
termination_by entries.length
decreasing_by
  have := length_of_evictOne? ‹_›
  omega

/-- The cache with room for an entry under a new fingerprint. -/
def withRoom (c : Cache) (choice : Choice) (fingerprint : UInt64) : Cache :=
  if c.contains fingerprint then c
  else { c with entries := makeRoom choice c.capacity fingerprint c.entries }

/-- The cache with a new entry. -/
def insert (c : Cache) (fingerprint : UInt64) (handle : Handle) : Cache :=
  { c with entries := c.entries ++ [(fingerprint, handle)] }

end Cache

/-- What a request to the cache leads to. -/
structure Lookup where
  /-- The cache afterwards. -/
  cache : Cache
  /-- The handle, or why there is none. -/
  result : Except CompileError Handle
  /-- The text was compiled, and not found. -/
  ran : Bool

/-- A compilation whose result is not kept. -/
def Cache.compileFresh (c : Cache) (serial : Nat) (compiled : Except CompileError Compiled) :
    Lookup :=
  ⟨c, compiled.map (⟨serial, ·⟩), true⟩

/-- What is kept under a fingerprint for a text, or else the result of its compilation.  A new
handle gets the given serial number. -/
def Cache.getOrCompile (c : Cache) (choice : Choice) (serial : Nat) (fingerprint : UInt64)
    (source : String) (compile : Unit → Except CompileError Compiled) : Lookup :=
  if c.capacity = 0 then c.compileFresh serial (compile ())
  else
    let c := c.withRoom choice fingerprint
    match c.get? fingerprint with
    | some handle =>
      if handle.compiled.source = source then ⟨c, .ok handle, false⟩
      else c.compileFresh serial (compile ())
    | none =>
      match compile () with
      | .ok compiled => ⟨c.insert fingerprint ⟨serial, compiled⟩, .ok ⟨serial, compiled⟩, true⟩
      | .error e => ⟨c, .error e, true⟩

end DocQuery
