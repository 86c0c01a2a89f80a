import ConversionDesk.Json.Tree

/-!
# Records

A record is a fixed list of field names, each of which a text may give or leave out. A
text gives a record as an object, by name in any order, or as an array, by position. A
named field may be given once; names that are no field are skipped, whatever well-formed
text they carry, but have to be proper strings.

## Main definitions

* `Record.ofTree?` — the fields a tree gives
* `Record.parse?` — the fields a text gives
-/

namespace ConversionDesk.Json.Record

/-- The fields among the members of an object, in the order of the object. -/
def ofMembers? (names : List String) :
    List (Option String × Tree) → Option (List (String × Value))
  | [] => some []
  | (n, t) :: ms => do
    let name ← n
    if name ∈ names then
      let v ← t.value? (Tree.maxDepth - 1)
      let fields ← ofMembers? names ms
      return (name, v) :: fields
    else
      ofMembers? names ms

/-- The fields that the elements of an array give, in the order of the names; `none` if
there are more elements than names. -/
def ofElements? : List String → List Tree → Option (List (String × Value))
  | _, [] => some []
  | [], _ :: _ => none
  | name :: names, t :: ts => do
    let v ← t.value? (Tree.maxDepth - 1)
    let fields ← ofElements? names ts
    return (name, v) :: fields

/-- The fields a tree gives, each at most once. -/
def ofTree? (names : List String) : Tree → Option (List (String × Value))
  | .object ms => do
    let fields ← ofMembers? names ms
    if (fields.map Prod.fst).Nodup then return fields else none
  | .array ts => ofElements? names ts
  | _ => none

/-- The fields a text gives. -/
def parse? (names : List String) (text : String) : Option (List (String × Value)) :=
  (Tree.parse? text).bind (ofTree? names)

/-- The value of a field, if it was given and is not `null`. -/
def field? (name : String) (fields : List (String × Value)) : Option Value :=
  (Value.member? name fields).bind Value.present

end ConversionDesk.Json.Record
