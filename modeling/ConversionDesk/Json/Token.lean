import ConversionDesk.Json.Number
import ConversionDesk.Json.Quoted

/-!
# JSON tokens

The first half of reading a JSON text: it is cut into marks, strings and words. A word is
a maximal run of characters between blanks, marks and quotes, and has to be one of the
three names or a number literal. A string or number that is well formed but denotes
nothing (half a surrogate pair, a number beyond the finite range) is a token without a
value, because a reader that only skips it must not mind.

## Main definitions

* `Token` — marks, names, strings and numbers
* `Token.scan` — the tokens of a text
-/

namespace ConversionDesk.Json

/-- A JSON token. The value of a string or number is `none` if it denotes nothing. -/
inductive Token where
  | openArray
  | closeArray
  | openObject
  | closeObject
  | comma
  | colon
  | null
  | bool (value : Bool)
  | number (value : Option Number)
  | string (value : Option String)
deriving DecidableEq, Repr

namespace Token

/-- The blanks of JSON: space, tab, line feed and carriage return. -/
def isBlank (c : Char) : Bool := c == ' ' || c == '\t' || c == '\n' || c == '\r'

/-- The token of a structural character. -/
def mark? : Char → Option Token
  | '[' => some openArray
  | ']' => some closeArray
  | '\x7b' => some openObject
  | '\x7d' => some closeObject
  | ',' => some comma
  | ':' => some colon
  | _ => none

/-- The token of a word: one of the three names, or a number literal. -/
def ofWord? (w : List Char) : Option Token :=
  if w = ['n', 'u', 'l', 'l'] then some null
  else if w = ['t', 'r', 'u', 'e'] then some (bool true)
  else if w = ['f', 'a', 'l', 's', 'e'] then some (bool false)
  else (Number.literal? w).map fun l => number l.number?

/-- The token of what stands between two quotes. -/
def ofQuoted? (cs : List Char) : Option Token :=
  (Quoted.atoms? cs).map fun atoms => string ((Quoted.join? atoms).map String.ofList)

/-- Where a scan stands: between tokens, in a word, in a string, or in a string right after
a backslash. What was seen of an unfinished token is kept in reverse. -/
inductive Position where
  | between
  | word (seen : List Char)
  | quoted (seen : List Char)
  | escaped (seen : List Char)

/-- A character that ends a word. -/
def endsWord (c : Char) : Bool := isBlank c || (mark? c).isSome || c == '"'

/-- What a character between tokens gives at once, and where it leads. -/
def enter (c : Char) : List Token × Position :=
  if isBlank c then ([], .between)
  else match mark? c with
    | some t => ([t], .between)
    | none => if c = '"' then ([], .quoted []) else ([], .word [c])

/-- The tokens of the rest of a text, from a position in it. -/
def scanFrom : Position → List Char → Option (List Token)
  | .between, [] => some []
  | .between, c :: cs => (scanFrom (enter c).2 cs).map ((enter c).1 ++ ·)
  | .word seen, [] => (ofWord? seen.reverse).map ([·])
  | .word seen, c :: cs =>
    if endsWord c then do
      let t ← ofWord? seen.reverse
      let ts ← scanFrom (enter c).2 cs
      return t :: ((enter c).1 ++ ts)
    else scanFrom (.word (c :: seen)) cs
  | .quoted _, [] => none
  | .quoted seen, c :: cs =>
    if c = '"' then do
      let t ← ofQuoted? seen.reverse
      let ts ← scanFrom .between cs
      return t :: ts
    else if c = '\\' then scanFrom (.escaped (c :: seen)) cs
    else scanFrom (.quoted (c :: seen)) cs
  | .escaped _, [] => none
  | .escaped seen, c :: cs => scanFrom (.quoted (c :: seen)) cs

/-- The tokens of a text; `none` if some part of it is no token. -/
def scan (cs : List Char) : Option (List Token) := scanFrom .between cs

end Token

end ConversionDesk.Json
