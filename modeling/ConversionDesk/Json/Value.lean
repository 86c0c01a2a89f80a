import ConversionDesk.Json.Number

/-!
# JSON values

Values keep the order of object members, but equality ignores it at every depth. A name
that is written again keeps its first place and takes the last value.

## Main definitions

* `Value` — a JSON value
* `Value.put`, `Value.merge` — members by the first-place, last-value rule
* `Value.same` — equality that ignores the order of members
-/

namespace ConversionDesk.Json

/-- A JSON value. The members of an object stand in the order of their first writing. -/
inductive Value where
  | null
  | bool (value : Bool)
  | number (value : Number)
  | string (value : String)
  | array (elements : List Value)
  | object (members : List (String × Value))
deriving Repr

namespace Value

/-- Sets a member: a known name keeps its place, a new one goes to the end. -/
def put (name : String) (value : Value) : List (String × Value) → List (String × Value)
  | [] => [(name, value)]
  | (n, v) :: rest => if n = name then (n, value) :: rest else (n, v) :: put name value rest

/-- The members of an object whose text names them in this order, repeats included. -/
def merge (members : List (String × Value)) : List (String × Value) :=
  members.foldl (fun done m => put m.1 m.2 done) []

/-- The value of a member. -/
def member? (name : String) : List (String × Value) → Option Value
  | [] => none
  | (n, v) :: rest => if n = name then some v else member? name rest

/-- `null` stands for an absent value. -/
def present : Value → Option Value
  | null => none
  | v => some v

mutual

/-- Equality of values; objects are equal if they have equally many members and every
member of the first has an equal one of the same name in the second. -/
def same : Value → Value → Bool
  | null, null => true
  | bool a, bool b => a == b
  | number a, number b => a.same b
  | string a, string b => a == b
  | array xs, array ys => sameElements xs ys
  | object xs, object ys => xs.length == ys.length && sameMembers xs ys
  | _, _ => false

/-- Equality of arrays, place by place. -/
def sameElements : List Value → List Value → Bool
  | [], [] => true
  | x :: xs, y :: ys => same x y && sameElements xs ys
  | _, _ => false

/-- Every member of the first list has an equal one of the same name in the second. -/
def sameMembers : List (String × Value) → List (String × Value) → Bool
  | [], _ => true
  | (n, x) :: xs, ys =>
    (match member? n ys with
      | some y => same x y
      | none => false) && sameMembers xs ys

end

/-- Equality of optional values. -/
def sameOption : Option Value → Option Value → Bool
  | none, none => true
  | some a, some b => a.same b
  | _, _ => false

end Value

end ConversionDesk.Json
