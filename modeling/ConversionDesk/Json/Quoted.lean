/-!
# JSON string literals

The characters between the quotes of a JSON string, read and written. Reading has two
steps: the escapes are resolved into atoms, which only needs every escape to be well
formed, and then halves of surrogate pairs are joined, which fails if one stands alone.

## Main definitions

* `Quoted.atoms?` — resolves escapes
* `Quoted.join?` — joins surrogate pairs
* `Quoted.write` — escapes what must not stand in a literal
-/

namespace ConversionDesk.Json.Quoted

/-- What one character or escape of a literal denotes: a character, or half of a surrogate
pair. -/
inductive Atom where
  | char (c : Char)
  | half (code : Nat)
deriving DecidableEq, Repr

/-! ### Reading -/

/-- The value of a hexadecimal digit, in either case. -/
def hexValue? (c : Char) : Option Nat :=
  if '0' ≤ c ∧ c ≤ '9' then some (c.toNat - '0'.toNat)
  else if 'a' ≤ c ∧ c ≤ 'f' then some (c.toNat - 'a'.toNat + 10)
  else if 'A' ≤ c ∧ c ≤ 'F' then some (c.toNat - 'A'.toNat + 10)
  else none

/-- The code of four hexadecimal digits. -/
def code? (a b c d : Char) : Option Nat := do
  let high := (← hexValue? a) * 16 + (← hexValue? b)
  let low := (← hexValue? c) * 16 + (← hexValue? d)
  return high * 256 + low

/-- The first half of a surrogate pair. -/
def isHigh (code : Nat) : Bool := 0xD800 ≤ code && code < 0xDC00

/-- The second half of a surrogate pair. -/
def isLow (code : Nat) : Bool := 0xDC00 ≤ code && code < 0xE000

/-- The atom of a four-digit code. -/
def Atom.ofCode (code : Nat) : Atom :=
  if isHigh code || isLow code then .half code else .char (Char.ofNat code)

/-- The character a one-letter escape denotes. -/
def shortEscape? : Char → Option Char
  | '"' => some '"'
  | '\\' => some '\\'
  | '/' => some '/'
  | 'b' => some '\x08'
  | 'f' => some '\x0c'
  | 'n' => some '\n'
  | 'r' => some '\r'
  | 't' => some '\t'
  | _ => none

/-- Control characters may not stand in a literal unescaped. -/
def isControl (c : Char) : Bool := c.toNat < 0x20

/-- Resolves the escapes of a literal; `none` if an escape is malformed or a control
character stands unescaped. -/
def atoms? : List Char → Option (List Atom)
  | [] => some []
  | '\\' :: 'u' :: a :: b :: c :: d :: rest => do
    return Atom.ofCode (← code? a b c d) :: (← atoms? rest)
  | '\\' :: e :: rest => do
    return .char (← shortEscape? e) :: (← atoms? rest)
  | c :: rest => if isControl c || c == '\\' then none else (atoms? rest).map (.char c :: ·)

/-- The character of a surrogate pair. -/
def pairChar (high low : Nat) : Char :=
  Char.ofNat (0x10000 + (high - 0xD800) * 0x400 + (low - 0xDC00))

/-- Joins surrogate pairs; `none` if a half stands alone. -/
def join? : List Atom → Option (List Char)
  | [] => some []
  | .char c :: rest => (join? rest).map (c :: ·)
  | .half h :: .half l :: rest =>
    if isHigh h && isLow l then (join? rest).map (pairChar h l :: ·) else none
  | .half _ :: _ => none

/-! ### Writing -/

/-- A hexadecimal digit, in lower case. -/
def hexDigit (n : Nat) : Char := Nat.digitChar n

/-- What a character is written as inside a literal: quote, backslash and control
characters are escaped, everything else stands for itself. -/
def writeChar (c : Char) : List Char :=
  if c = '"' then ['\\', '"']
  else if c = '\\' then ['\\', '\\']
  else if c = '\x08' then ['\\', 'b']
  else if c = '\x0c' then ['\\', 'f']
  else if c = '\n' then ['\\', 'n']
  else if c = '\r' then ['\\', 'r']
  else if c = '\t' then ['\\', 't']
  else if isControl c then ['\\', 'u', '0', '0', hexDigit (c.toNat / 16), hexDigit (c.toNat % 16)]
  else [c]

/-- The literal of a string, quotes included. -/
def write (s : String) : List Char := '"' :: (s.toList.flatMap writeChar ++ ['"'])

end ConversionDesk.Json.Quoted
