import DocQuery.Lowering.Unsupported

/-!
# Access chains

An expression such as `$.items[0].price` reads a document through keys that are written out.  It is
a chain: where it starts, and the keys in order.  Chains are what becomes a field path.

## Main definitions

* `Chain`, `Expr.chain?` — a chain, and the chain that an expression is.
* `Chain.dotted?` — the field path of a chain.
* `targetPath` — the field path that an assignment or a sort names.
-/

namespace DocQuery

/-- Where a chain starts. -/
inductive ChainBase where
  /-- The document. -/
  | root
  /-- The array element at hand. -/
  | element
  deriving DecidableEq

/-- A key of a chain. -/
inductive ChainKey where
  | field (name : String)
  | index (n : Int64)
  deriving DecidableEq

/-- An access through keys that are written out. -/
structure Chain where
  base : ChainBase
  keys : List ChainKey
  deriving DecidableEq

/-- The key of a chain that an expression writes out. -/
def Expr.chainKey? : Expr → Option ChainKey
  | .key name => some (.field name)
  | .string name => some (.field name)
  | .integer n => some (.index n)
  | _ => none

/-- The chain that an expression is. -/
def Expr.chain? : Expr → Option Chain
  | .root => some ⟨.root, []⟩
  | .element => some ⟨.element, []⟩
  | .access base index => do
    let chain ← base.chain?
    let last ← index.chainKey?
    return { chain with keys := chain.keys ++ [last] }
  | _ => none

/-- The name can stand between the dots of a path. -/
def isPathSegment (name : String) : Bool :=
  name != "" && !containsDot name && !startsWithDollar name

/-- The segment of a path for a key. -/
def ChainKey.segment? : ChainKey → Option String
  | .field name => if isPathSegment name then some name else none
  | .index n => if 0 ≤ n.toInt then some (toString n.toInt) else none

/-- The key is an index. -/
def ChainKey.isIndex : ChainKey → Bool
  | .field _ => false
  | .index _ => true

/-- The field path of keys, if there is one. -/
def dotted? (keys : List ChainKey) : Option String := do
  let segments ← keys.mapM (·.segment?)
  if segments.isEmpty then none else return dottedPath segments

/-- The field path of a chain of names on the document, which can be assigned. -/
def targetPath (e : Expr) : Except LoweringError String :=
  match e.chain? with
  | some ⟨.root, keys⟩ =>
    if keys.any (·.isIndex) then .error (.unsupported e .indexedTarget)
    else
      match dotted? keys with
      | some path => .ok path
      | none => .error (.unsupported e .notTarget)
  | _ => .error (.unsupported e .notTarget)

end DocQuery
