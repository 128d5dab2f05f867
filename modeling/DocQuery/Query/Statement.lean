import DocQuery.Query.Expr

/-!
# Statements of the query language

A query is a document sign followed by statements, each of which takes a list of documents and
makes another one of it.

## Main definitions

* `Direction` — ascending or descending.
* `Statement` — one step of a query.
* `Query` — a whole query.
-/

namespace DocQuery

/-- A direction of sorting. -/
inductive Direction where
  | ascending
  | descending
  deriving DecidableEq

/-- One step of a query. -/
inductive Statement where
  /-- Keeps the documents that satisfy a condition, `?(condition)`. -/
  | filter (condition : Expr)
  /-- Assigns fields, `~(target := value, …)`. -/
  | transform (assignments : List (Expr × Expr))
  /-- Puts a value in the place of each document, `!(value)`. -/
  | output (value : Expr)
  /-- Orders the documents, `sort(key direction, …)`. -/
  | sort (keys : List (Expr × Direction))
  /-- Leaves out the first documents, `skip(n)`. -/
  | skip (n : Int64)
  /-- Keeps only the first documents, `limit(n)`. -/
  | limit (n : Int64)
  /-- Makes a document for each item of an array, `unwind(path, keepEmpty)`. -/
  | unwind (path : Expr) (keepEmpty : Bool)
  /-- Counts the documents, `count("name")`. -/
  | count (name : String)
  /-- Makes a document for each value of a key, `group(key, object)`. -/
  | group (key : Expr) (accumulators : List (String × Expr))

/-- A query, its statements in written order. -/
structure Query where
  statements : List Statement

end DocQuery
