import DocQuery.Compile.Cache
import DocQuery.Compile.Fingerprint

/-!
# Compilers

A compiler has a context and options, and remembers what it has compiled.

## Main definitions

* `Compiler` — the context, the options and the cache.
* `Compiler.compile` — the compilation of a text without the blanks around it.
-/

namespace DocQuery

/-- A compiler. -/
structure Compiler where
  context : Context
  options : CompileOptions
  cache : Cache

namespace Compiler

/-- A compiler that has not compiled anything. -/
def new (context : Context) (options : CompileOptions) : Compiler :=
  ⟨context, options, .empty options.capacity⟩

/-- The compilation of a text as it stands, without the cache. -/
def compileUncached (c : Compiler) (source : String) : Except CompileError Compiled :=
  DocQuery.compile c.context c.options source

/-- The fingerprint of a text for this compiler. -/
def fingerprint (c : Compiler) (source : String) : UInt64 :=
  DocQuery.fingerprint source c.context c.options

/-- The compilation of a text without the blanks around it. -/
def compile (c : Compiler) (choice : Choice) (serial : Nat) (text : String) : Lookup :=
  let source := Text.trim text
  if c.options.cache then
    c.cache.getOrCompile choice serial (c.fingerprint source) source
      fun _ => c.compileUncached source
  else c.cache.compileFresh serial (c.compileUncached source)

/-- The compiler with another cache. -/
def withCache (c : Compiler) (cache : Cache) : Compiler :=
  { c with cache := cache }

end Compiler

end DocQuery
