import ConversionDesk.Json.Token
import ConversionDesk.Json.Value

/-!
# JSON trees

The second half of reading a JSON text: its tokens form a tree by the grammar alone. A
tree has no limit on nesting and may hold strings and numbers without a value; asking for
its value imposes both limits. A reader that skips part of a text asks only for the tree.

## Main definitions

* `Tree` — a well-formed text, up to blanks and the spelling of leaves
* `Tree.tokens` — the tokens of a tree
* `Tree.ofTokens?`, `Tree.parse?` — the tree of a token list, of a text
* `Tree.value?` — the value of a tree within a nesting limit
* `Value.parse?` — the value of a text

## Main results

* `Tree.ofTokens?_tokens` — reading the tokens of a tree gives the tree back
-/

namespace ConversionDesk.Json

/-- A JSON text by the grammar alone. Leaves and names without a value are `none`. -/
inductive Tree where
  | null
  | bool (value : Bool)
  | number (value : Option Number)
  | string (value : Option String)
  | array (elements : List Tree)
  | object (members : List (Option String × Tree))
deriving Repr

namespace Tree

/-! ### Trees and tokens -/

mutual

/-- The tokens of a tree. -/
def tokens : Tree → List Token
  | null => [.null]
  | bool b => [.bool b]
  | number n => [.number n]
  | string s => [.string s]
  | array [] => [.openArray, .closeArray]
  | array (t :: ts) => .openArray :: (tokens t ++ elementTokens ts)
  | object [] => [.openObject, .closeObject]
  | object ((n, t) :: ms) => .openObject :: .string n :: .colon :: (tokens t ++ memberTokens ms)

/-- The tokens after an element of an array, up to its end. -/
def elementTokens : List Tree → List Token
  | [] => [.closeArray]
  | t :: ts => .comma :: (tokens t ++ elementTokens ts)

/-- The tokens after a member of an object, up to its end. -/
def memberTokens : List (Option String × Tree) → List Token
  | [] => [.closeObject]
  | (n, t) :: ms => .comma :: .string n :: .colon :: (tokens t ++ memberTokens ms)

end

mutual

/-- Reads a tree off the front of a token list. Each level of recursion takes one unit of
fuel, and every tree has at least as many tokens as levels. -/
def read : Nat → List Token → Option (Tree × List Token)
  | 0, _ => none
  | _ + 1, .null :: ts => some (null, ts)
  | _ + 1, .bool b :: ts => some (bool b, ts)
  | _ + 1, .number n :: ts => some (number n, ts)
  | _ + 1, .string s :: ts => some (string s, ts)
  | _ + 1, .openArray :: .closeArray :: ts => some (array [], ts)
  | fuel + 1, .openArray :: ts => do
    let (x, ts) ← read fuel ts
    let (xs, ts) ← readElements fuel ts
    return (array (x :: xs), ts)
  | _ + 1, .openObject :: .closeObject :: ts => some (object [], ts)
  | fuel + 1, .openObject :: .string n :: .colon :: ts => do
    let (x, ts) ← read fuel ts
    let (ms, ts) ← readMembers fuel ts
    return (object ((n, x) :: ms), ts)
  | _ + 1, _ => none

/-- Reads the rest of an array after an element. -/
def readElements : Nat → List Token → Option (List Tree × List Token)
  | _, .closeArray :: ts => some ([], ts)
  | fuel + 1, .comma :: ts => do
    let (x, ts) ← read fuel ts
    let (xs, ts) ← readElements fuel ts
    return (x :: xs, ts)
  | _, _ => none

/-- Reads the rest of an object after a member. -/
def readMembers : Nat → List Token → Option (List (Option String × Tree) × List Token)
  | _, .closeObject :: ts => some ([], ts)
  | fuel + 1, .comma :: .string n :: .colon :: ts => do
    let (x, ts) ← read fuel ts
    let (ms, ts) ← readMembers fuel ts
    return ((n, x) :: ms, ts)
  | _, _ => none

end

/-- The tree of a whole token list. -/
def ofTokens? (ts : List Token) : Option Tree :=
  match read ts.length ts with
  | some (t, []) => some t
  | _ => none

/-! ### Reading undoes `tokens` -/

/-- No tree starts with the end of an array. -/
theorem tokens_append_ne_closeArray (t : Tree) (rest ts : List Token) :
    t.tokens ++ rest ≠ .closeArray :: ts := by
  cases t with
  | array ts => cases ts <;> simp [tokens]
  | object ms => cases ms <;> simp [tokens]
  | _ => simp [tokens]

theorem tokens_length_pos (t : Tree) : 0 < t.tokens.length := by
  cases t with
  | array ts => cases ts <;> simp [tokens]
  | object ms => cases ms <;> simp [tokens]
  | _ => simp [tokens]

mutual

/-- The tokens of a tree read as that tree, whatever follows them. -/
theorem read_tokens (t : Tree) (rest : List Token) (fuel : Nat) (h : t.tokens.length ≤ fuel) :
    read fuel (t.tokens ++ rest) = some (t, rest) := by
  match t, fuel with
  | t, 0 => have := tokens_length_pos t; omega
  | null, _ + 1 => simp [tokens, read]
  | bool _, _ + 1 => simp [tokens, read]
  | number _, _ + 1 => simp [tokens, read]
  | string _, _ + 1 => simp [tokens, read]
  | array [], _ + 1 => simp [tokens, read]
  | array (t :: ts), fuel + 1 =>
    simp only [tokens, List.length_cons, List.length_append] at h
    have hhead := read_tokens t (elementTokens ts ++ rest) fuel (by omega)
    have htail := readElements_tokens ts rest fuel (by omega)
    simp only [tokens, List.cons_append, List.append_assoc]
    rw [read]
    · simp [hhead, htail]
    · exact fun us => tokens_append_ne_closeArray t _ us
  | object [], _ + 1 => simp [tokens, read]
  | object ((n, t) :: ms), fuel + 1 =>
    simp only [tokens, List.length_cons, List.length_append] at h
    have hhead := read_tokens t (memberTokens ms ++ rest) fuel (by omega)
    have htail := readMembers_tokens ms rest fuel (by omega)
    simp [tokens, read, hhead, htail]

theorem readElements_tokens (ts : List Tree) (rest : List Token) (fuel : Nat)
    (h : (elementTokens ts).length ≤ fuel) :
    readElements fuel (elementTokens ts ++ rest) = some (ts, rest) := by
  match ts, fuel with
  | [], fuel => cases fuel <;> simp [elementTokens, readElements]
  | _ :: _, 0 => simp [elementTokens] at h
  | t :: ts, fuel + 1 =>
    simp only [elementTokens, List.length_cons, List.length_append] at h
    have hhead := read_tokens t (elementTokens ts ++ rest) fuel (by omega)
    have htail := readElements_tokens ts rest fuel (by omega)
    simp [elementTokens, readElements, hhead, htail]

theorem readMembers_tokens (ms : List (Option String × Tree)) (rest : List Token) (fuel : Nat)
    (h : (memberTokens ms).length ≤ fuel) :
    readMembers fuel (memberTokens ms ++ rest) = some (ms, rest) := by
  match ms, fuel with
  | [], fuel => cases fuel <;> simp [memberTokens, readMembers]
  | (_, _) :: _, 0 => simp [memberTokens] at h
  | (n, t) :: ms, fuel + 1 =>
    simp only [memberTokens, List.length_cons, List.length_append] at h
    have hhead := read_tokens t (memberTokens ms ++ rest) fuel (by omega)
    have htail := readMembers_tokens ms rest fuel (by omega)
    simp [memberTokens, readMembers, hhead, htail]

end

/-- The tokens of a tree are those of no other tree. -/
@[simp] theorem ofTokens?_tokens (t : Tree) : ofTokens? t.tokens = some t := by
  have h := read_tokens t [] _ (Nat.le_refl _)
  simp only [List.append_nil] at h
  simp [ofTokens?, h]

/-- The tree of a text. -/
def parse? (text : String) : Option Tree := (Token.scan text.toList).bind ofTokens?

/-! ### Values of trees -/

mutual

/-- The value of a tree that may open `room` containers inside each other; `none` if it
opens more, or if a leaf or name has no value. -/
def value? : Nat → Tree → Option Value
  | _, null => some .null
  | _, bool b => some (.bool b)
  | _, number n => n.map .number
  | _, string s => s.map .string
  | 0, array _ => none
  | room + 1, array ts => (elements? room ts).map .array
  | 0, object _ => none
  | room + 1, object ms => (members? room ms).map fun vs => .object (Value.merge vs)

/-- The values of the elements of an array. -/
def elements? : Nat → List Tree → Option (List Value)
  | _, [] => some []
  | room, t :: ts => do
    let v ← value? room t
    let vs ← elements? room ts
    return v :: vs

/-- The members of an object as written, repeats included. -/
def members? : Nat → List (Option String × Tree) → Option (List (String × Value))
  | _, [] => some []
  | room, (n, t) :: ms => do
    let name ← n
    let v ← value? room t
    let vs ← members? room ms
    return (name, v) :: vs

end

/-- How many containers a text may have open at once. -/
def maxDepth : Nat := 127

end Tree

/-- The value of a text. -/
def Value.parse? (text : String) : Option Value :=
  (Tree.parse? text).bind (Tree.value? Tree.maxDepth)

end ConversionDesk.Json
