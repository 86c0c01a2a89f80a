import ConversionDesk.Json.Quoted
import ConversionDesk.Json.Value

/-!
# Written JSON values

A value is written compactly, without blanks, or indented by two spaces a level with one
element or member a line. Empty containers stay on one line in both layouts.

## Main definitions

* `Value.compact` — the compact text
* `Value.indented` — the indented text
-/

namespace ConversionDesk.Json.Value

/-- The text of a truth value. -/
def writeBool (b : Bool) : List Char :=
  if b then ['t', 'r', 'u', 'e'] else ['f', 'a', 'l', 's', 'e']

/-! ### Compact layout -/

mutual

/-- The characters of the compact text. -/
def compactChars : Value → List Char
  | null => ['n', 'u', 'l', 'l']
  | bool b => writeBool b
  | number n => n.write
  | string s => Quoted.write s
  | array [] => ['[', ']']
  | array (x :: xs) => '[' :: (compactChars x ++ compactElements xs)
  | object [] => ['\x7b', '\x7d']
  | object ((n, x) :: ms) =>
    '\x7b' :: (Quoted.write n ++ ':' :: (compactChars x ++ compactMembers ms))

/-- What follows an element of an array, up to its end. -/
def compactElements : List Value → List Char
  | [] => [']']
  | x :: xs => ',' :: (compactChars x ++ compactElements xs)

/-- What follows a member of an object, up to its end. -/
def compactMembers : List (String × Value) → List Char
  | [] => ['\x7d']
  | (n, x) :: ms => ',' :: (Quoted.write n ++ ':' :: (compactChars x ++ compactMembers ms))

end

/-- The compact text of a value. -/
def compact (v : Value) : String := String.ofList v.compactChars

/-! ### Indented layout -/

/-- A line break and the indentation of a level. -/
def lineBreak (level : Nat) : List Char := '\n' :: List.replicate (2 * level) ' '

mutual

/-- The characters of the indented text of a value that stands at a level. -/
def indentedChars : Nat → Value → List Char
  | _, null => ['n', 'u', 'l', 'l']
  | _, bool b => writeBool b
  | _, number n => n.write
  | _, string s => Quoted.write s
  | _, array [] => ['[', ']']
  | level, array (x :: xs) =>
    '[' :: (lineBreak (level + 1) ++ (indentedChars (level + 1) x ++ indentedElements level xs))
  | _, object [] => ['\x7b', '\x7d']
  | level, object ((n, x) :: ms) =>
    '\x7b' :: (lineBreak (level + 1) ++ (Quoted.write n ++ ':' :: ' ' ::
      (indentedChars (level + 1) x ++ indentedMembers level ms)))

/-- What follows an element of an array at a level, up to its end. -/
def indentedElements : Nat → List Value → List Char
  | level, [] => lineBreak level ++ [']']
  | level, x :: xs =>
    ',' :: (lineBreak (level + 1) ++ (indentedChars (level + 1) x ++ indentedElements level xs))

/-- What follows a member of an object at a level, up to its end. -/
def indentedMembers : Nat → List (String × Value) → List Char
  | level, [] => lineBreak level ++ ['\x7d']
  | level, (n, x) :: ms =>
    ',' :: (lineBreak (level + 1) ++ (Quoted.write n ++ ':' :: ' ' ::
      (indentedChars (level + 1) x ++ indentedMembers level ms)))

end

/-- The indented text of a value. -/
def indented (v : Value) : String := String.ofList (v.indentedChars 0)

end ConversionDesk.Json.Value
