import DocQuery.Text.Split
import DocQuery.Value.Basic

/-!
# Paths into values

A path such as `a.b.0` names a place in a document by the segments between its dots.  Conditions
and expressions read a path differently: a condition sees every value that the path reaches, going
through arrays of documents and into arrays by index, while an expression gets one value, which for
an array of documents is the array of what the path yields in them.

## Main definitions

* `pathSegments`, `dottedPath` — a path as a list of segments, and back.
* `Value.reached` — all values that a path reaches.
* `Value.at?` — the value that a path yields in an expression.
* `Value.set`, `Value.remove` — a document with a path assigned or taken away.
-/

namespace DocQuery

/-- The segments between the dots of a path. -/
def pathSegments (path : String) : List String :=
  (Text.splitAtChar '.' path.toList).map String.ofList

/-- The path with the given segments. -/
def dottedPath (segments : List String) : String :=
  ".".intercalate segments

/-! ### Entries of an object -/

/-- The entries with `key` set to `value`, in its old place if it had one and at the end
otherwise. -/
def putField {α : Type} (key : String) (value : α) : List (String × α) → List (String × α)
  | [] => [(key, value)]
  | (k, v) :: fields =>
    if k = key then (key, value) :: fields else (k, v) :: putField key value fields

/-- The entries without `key`. -/
def eraseField {α : Type} (key : String) (fields : List (String × α)) : List (String × α) :=
  fields.filter fun (k, _) => k != key

/-- The entries with `f` applied to the value at `key`. -/
def modifyField {α : Type} (key : String) (f : α → α) (fields : List (String × α)) :
    List (String × α) :=
  fields.map fun (k, v) => if k = key then (k, f v) else (k, v)

/-- The entries put one after the other into an empty object: a key that occurs again keeps its
first place and gets its last value. -/
def collectFields {α : Type} (entries : List (String × α)) : List (String × α) :=
  entries.foldl (fun fields (key, value) => putField key value fields) []

namespace Value

/-- The entries of an object; any other value has none. -/
def fields : Value → List (String × Value)
  | .object fields => fields
  | _ => []

/-! ### What conditions read -/

/-- The values one segment further down.  In an array the segment is an index, if it is a numeral,
and also the name of a field of its objects. -/
def step (segment : String) : Value → List Value
  | .object fields => (fields.lookup segment).toList
  | .array items =>
    (unsignedOf? segment.toList >>= fun i => items[i]?).toList
      ++ items.flatMap fun item => (item.fields.lookup segment).toList
  | _ => []

/-- All values that a path reaches, in order. -/
def reached : List String → Value → List Value
  | [], value => [value]
  | segment :: rest, value => (value.step segment).flatMap (reached rest)

/-! ### What expressions read -/

mutual

/-- Goes one segment down, then on with `next`; an array yields what its items yield. -/
def down? (segment : String) (next : Value → Option Value) : Value → Option Value
  | .object fields => fields.lookup segment >>= next
  | .array items => some (.array (downAll segment next items))
  | _ => none

/-- What the items yield, those that yield nothing left out. -/
def downAll (segment : String) (next : Value → Option Value) : List Value → List Value
  | [] => []
  | item :: items =>
    match down? segment next item with
    | some value => value :: downAll segment next items
    | none => downAll segment next items

end

/-- The value that a path yields. -/
def at? : List String → Value → Option Value
  | [], value => some value
  | segment :: rest, value => value.down? segment (at? rest)

/-- The value that a path yields, null if there is none. -/
def atPath (path : String) (document : Value) : Value :=
  (document.at? (pathSegments path)).getD .null

/-! ### Assigning and taking away -/

/-- The value with a path set to `new`.  Whatever is not an object on the way becomes one. -/
def set (new : Value) : List String → Value → Value
  | [], _ => new
  | segment :: rest, value =>
    let child := (value.fields.lookup segment).getD (.object [])
    .object (putField segment (set new rest child) value.fields)

mutual

/-- Applies `f` to the field of an object, or of all objects of an array. -/
def modify (segment : String) (f : Value → Value) : Value → Value
  | .object fields => .object (modifyField segment f fields)
  | .array items => .array (modifyAll segment f items)
  | value => value

/-- Applies `f` to the field in each item. -/
def modifyAll (segment : String) (f : Value → Value) : List Value → List Value
  | [] => []
  | item :: items => modify segment f item :: modifyAll segment f items

end

/-- The value without the last field of a path, in all objects that the segments before it
reach. -/
def remove : List String → Value → Value
  | [], value => value
  | [segment], .object fields => .object (eraseField segment fields)
  | [_], value => value
  | segment :: next :: rest, value => value.modify segment (remove (next :: rest))

end Value

end DocQuery
