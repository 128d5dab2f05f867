import DocQuery.Compile.Compiler
import DocQuery.Proofs.Compile.Cache
import DocQuery.Proofs.Outcome

/-!
# A compiler answers as if it kept nothing

Every entry of a cache is what the compilation of its own text gives, and an entry answers a request
only for that text.  So it does not matter under which fingerprints texts are kept, which of them
share one, and which entries have been given up: a compiler answers each text with its compilation.

## Main definitions

* `Cache.Faithful` — the entries are compilations of their texts.
* `Compiler.Request`, `Compiler.answers` — requests to a compiler, and its answers.

## Main results

* `Cache.Faithful.getOrCompile` — a request keeps a cache faithful, under any fingerprint.
* `Cache.Faithful.result_getOrCompile` — a faithful cache answers with the compilation.
* `Compiler.answers_eq_compileUncached` — **so does a compiler, after any requests.**
-/

namespace DocQuery

/-- A compiled text is kept with its pipeline. -/
theorem source_of_compile {context : Context} {options : CompileOptions} {source : String}
    {compiled : Compiled} (h : compile context options source = .ok compiled) :
    compiled.source = source := by
  simp only [compile, bind_eq_ok_iff, pure_eq_ok, Except.ok.injEq] at h
  obtain ⟨lowered, -, simplified, -, coalesced, -, rfl⟩ := h
  rfl

namespace Cache

variable {f : String → Except CompileError Compiled} {c : Cache}

/-- Each entry is what the compilation of its own text gives. -/
def Faithful (f : String → Except CompileError Compiled) (c : Cache) : Prop :=
  ∀ entry ∈ c.entries, f entry.2.compiled.source = .ok entry.2.compiled

theorem faithful_of_entries_eq_nil (h : c.entries = []) : c.Faithful f := by
  intro entry hentry
  rw [h] at hentry
  cases hentry

theorem mem_of_get? {fingerprint : UInt64} {handle : Handle}
    (h : c.get? fingerprint = some handle) : (fingerprint, handle) ∈ c.entries := by
  obtain ⟨before, after, hentries, -⟩ := List.lookup_eq_some_iff.mp h
  rw [hentries]
  exact List.mem_append_right _ List.mem_cons_self

/-- Entries that are given up leave the other ones faithful. -/
theorem Faithful.withRoom (hc : c.Faithful f) (choice : Choice) (fingerprint : UInt64) :
    (c.withRoom choice fingerprint).Faithful f := by
  rw [Cache.withRoom]
  split
  · exact hc
  · intro entry hentry
    exact hc entry ((makeRoom_sublist ..).subset hentry)

/-- Whatever a request under a fingerprint leads to, the cache stays faithful: an entry is added
only with what its text compiles to. -/
theorem Faithful.getOrCompile (hf : ∀ {source compiled}, f source = .ok compiled →
      compiled.source = source) (hc : c.Faithful f) (choice : Choice) (serial : Nat)
    (fingerprint : UInt64) (source : String) :
    (c.getOrCompile choice serial fingerprint source fun _ => f source).cache.Faithful f := by
  generalize h : (c.getOrCompile choice serial fingerprint source fun _ => f source).cache = left
  rcases cache_getOrCompile_cases choice serial (fun _ => f source) h with
    rfl | ⟨-, -, rfl | ⟨compiled, hcompile, rfl⟩⟩
  · exact hc
  · exact hc.withRoom choice fingerprint
  · intro entry hentry
    rcases List.mem_append.mp hentry with hold | hnew
    · exact hc.withRoom choice fingerprint entry hold
    · rw [List.mem_singleton.mp hnew, hf hcompile]
      exact hcompile

/-- What a fresh compilation is answered with. -/
theorem result_compileFresh (c : Cache) (serial : Nat) (compiled : Except CompileError Compiled) :
    (c.compileFresh serial compiled).result.map Handle.compiled = compiled := by
  cases compiled <;> rfl

/-- A faithful cache answers with the compilation of the text, whether it is kept or not. -/
theorem Faithful.result_getOrCompile (hc : c.Faithful f) (choice : Choice) (serial : Nat)
    (fingerprint : UInt64) (source : String) :
    (c.getOrCompile choice serial fingerprint source fun _ => f source).result.map Handle.compiled
      = f source := by
  by_cases hcapacity : c.capacity = 0
  · rw [getOrCompile_of_capacity_eq_zero choice serial _ fingerprint source hcapacity]
    exact result_compileFresh c serial (f source)
  · cases hstored : c.get? fingerprint with
    | none =>
      cases f source with
      | error e =>
        rw [getOrCompile_of_new_error choice serial _ source hcapacity hstored rfl]
        rfl
      | ok compiled =>
        rw [getOrCompile_of_new choice serial _ source hcapacity hstored rfl]
        rfl
    | some handle =>
      by_cases hsource : handle.compiled.source = source
      · -- the entry is the compilation of its text, and that is the text asked for
        have hkept := hc _ (mem_of_get? hstored)
        rw [getOrCompile_of_stored choice serial _ hcapacity hstored hsource, ← hsource]
        exact hkept.symm
      · rw [getOrCompile_of_other choice serial _ hstored hsource]
        exact result_compileFresh c serial (f source)

end Cache

namespace Compiler

/-- A request to a compiler. -/
inductive Request where
  /-- Asks for the compilation of a text. -/
  | compile (choice : Choice) (serial : Nat) (text : String)
  /-- Takes all entries out of the cache. -/
  | clear

/-- The text that is asked for. -/
def Request.text? : Request → Option String
  | .compile _ _ text => some text
  | .clear => none

/-- The answers to requests for texts, one after the other. -/
def answers (c : Compiler) : List Request → List (Except CompileError Handle)
  | [] => []
  | .compile choice serial text :: requests =>
    let outcome := c.compile choice serial text
    outcome.result :: answers (c.withCache outcome.cache) requests
  | .clear :: requests => answers (c.withCache c.cache.clear) requests

variable {c : Compiler}

theorem result_compile (hc : c.cache.Faithful c.compileUncached) (choice : Choice) (serial : Nat)
    (text : String) :
    (c.compile choice serial text).result.map Handle.compiled
      = c.compileUncached (Text.trim text) := by
  simp only [compile]
  split
  · exact hc.result_getOrCompile choice serial _ _
  · exact Cache.result_compileFresh c.cache serial _

theorem faithful_compile (hc : c.cache.Faithful c.compileUncached) (choice : Choice) (serial : Nat)
    (text : String) : (c.compile choice serial text).cache.Faithful c.compileUncached := by
  simp only [compile]
  split
  · exact hc.getOrCompile source_of_compile choice serial _ _
  · exact hc

theorem answers_of_faithful (hc : c.cache.Faithful c.compileUncached) (requests : List Request) :
    (c.answers requests).map (·.map Handle.compiled)
      = (requests.filterMap Request.text?).map fun text => c.compileUncached (Text.trim text) := by
  induction requests generalizing c with
  | nil => rfl
  | cons request requests ih =>
    cases request with
    | clear =>
      -- an empty cache is faithful, and the compilation depends on the context and options alone
      exact ih (c := c.withCache c.cache.clear) (Cache.faithful_of_entries_eq_nil rfl)
    | compile choice serial text =>
      have hrest := ih (c := c.withCache (c.compile choice serial text).cache)
        (faithful_compile hc choice serial text)
      exact congrArg₂ List.cons (result_compile hc choice serial text) hrest

/-- Whatever it has been asked for before, a compiler answers a text with its compilation. -/
theorem exists_getLast?_answers (context : Context) (options : CompileOptions)
    (requests : List Request) (choice : Choice) (serial : Nat) (text : String) :
    ∃ answer, ((new context options).answers
        (requests ++ [.compile choice serial text])).getLast? = some answer ∧
      answer.map Handle.compiled = DocQuery.compile context options (Text.trim text) := by
  have hanswers := congrArg List.getLast? (answers_of_faithful (c := new context options)
    (Cache.faithful_of_entries_eq_nil rfl) (requests ++ [.compile choice serial text]))
  rw [List.filterMap_append, List.map_append, List.getLast?_map] at hanswers
  obtain ⟨answer, hlast, hcompiled⟩ := Option.map_eq_some_iff.mp (hanswers.trans
    List.getLast?_concat)
  exact ⟨answer, hlast, hcompiled⟩

/-- Whatever a compiler hands out has been compiled from some text without the blanks around it. -/
theorem exists_compile_eq_of_mem_answers {context : Context} {options : CompileOptions}
    {requests : List Request} {handle : Handle}
    (h : .ok handle ∈ (new context options).answers requests) :
    ∃ text, DocQuery.compile context options (Text.trim text) = .ok handle.compiled := by
  have hmem := List.mem_map_of_mem (f := (·.map Handle.compiled)) h
  rw [answers_of_faithful (c := new context options) (Cache.faithful_of_entries_eq_nil rfl)] at hmem
  obtain ⟨text, -, htext⟩ := List.mem_map.mp hmem
  exact ⟨text, htext⟩

/-- A compiler that starts with an empty cache answers each text with the compilation of the text
without the blanks around it, or with the error of that: whatever it has been asked for before,
whichever entries have been given up and whichever texts share a fingerprint. -/
theorem answers_eq_compileUncached (context : Context) (options : CompileOptions)
    (requests : List Request) :
    ((new context options).answers requests).map (·.map Handle.compiled)
      = (requests.filterMap Request.text?).map fun text =>
          (new context options).compileUncached (Text.trim text) :=
  answers_of_faithful (Cache.faithful_of_entries_eq_nil rfl) requests

end Compiler

end DocQuery
