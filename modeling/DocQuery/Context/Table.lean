/-!
# Sorted tables

Entries in the order of their keys, each key once.

## Main definitions

* `Table` — the entries.
* `Table.insert` — sets the value of a key.
* `Table.get?` — the value of a key.
-/

namespace DocQuery

/-- Entries in increasing order of their keys. -/
structure Table (κ ν : Type) where
  entries : List (κ × ν)

namespace Table

variable {κ ν : Type}

/-- A table without entries. -/
def empty : Table κ ν := ⟨[]⟩

/-- The entries with the value of a key set. -/
def insertEntry (order : κ → κ → Ordering) (key : κ) (value : ν) :
    List (κ × ν) → List (κ × ν)
  | [] => [(key, value)]
  | (k, v) :: entries =>
    match order key k with
    | .lt => (key, value) :: (k, v) :: entries
    | .eq => (key, value) :: entries
    | .gt => (k, v) :: insertEntry order key value entries

/-- Sets the value of a key. -/
def insert [Ord κ] (table : Table κ ν) (key : κ) (value : ν) : Table κ ν :=
  ⟨insertEntry compare key value table.entries⟩

/-- The value of a key. -/
def get? [BEq κ] (table : Table κ ν) (key : κ) : Option ν :=
  table.entries.lookup key

/-- The number of entries. -/
def size (table : Table κ ν) : Nat :=
  table.entries.length

end Table

end DocQuery
