import ConversionDesk.Number.Shortest

/-!
# JSON numbers

A number is an integer of at most 64 bits, signed or unsigned, or a binary64 number; an
integer never equals a binary64 number. A literal without fraction and exponent stays an
integer while it fits; every other literal is rounded.

## Main definitions

* `Number` — integer or binary64
* `Number.Literal` — the parts of a number literal, by the JSON grammar
* `Number.Literal.number?` — the number a literal denotes; `none` beyond the finite range
* `Number.write` — the literal a number is written as
-/

namespace ConversionDesk.Json

/-- A JSON number. -/
inductive Number where
  | integer (value : Int)
  | float (value : Binary64)
deriving DecidableEq, Repr

namespace Number

/-- The integers that stay integers: `-2 ^ 63` up to `2 ^ 64 - 1`. -/
def FitsInteger (i : Int) : Prop := -9223372036854775808 ≤ i ∧ i < 18446744073709551616

instance (i : Int) : Decidable (FitsInteger i) := inferInstanceAs (Decidable (_ ∧ _))

/-- Whether the number is zero, of any kind and sign. -/
def isZero : Number → Bool
  | integer i => i == 0
  | float x => x.isZero

/-- Equality of numbers: kinds are kept apart, and the two binary64 zeros are equal. -/
def same : Number → Number → Bool
  | integer i, integer j => i == j
  | float x, float y => x.sameNumber y
  | _, _ => false

/-! ### Reading -/

/-- The parts of a number literal. All digit lists are non-empty, and `whole` has no
leading zero unless it is a single zero. -/
structure Literal where
  negative : Bool
  whole : List Char
  fraction : Option (List Char)
  exponent : Option (Bool × List Char)
deriving DecidableEq, Repr

/-- A non-empty list of decimal digits. -/
def isDigits (cs : List Char) : Bool := !cs.isEmpty && cs.all Char.isDigit

/-- The digits before point and exponent: no leading zero in front of another digit. -/
def isWhole (cs : List Char) : Bool :=
  isDigits cs && (cs.head? != some '0' || cs.length == 1)

/-- The exponent part, from the character after its mark to the end of the literal: an
optional sign and digits. The flag tells a negative exponent. -/
def exponentPart? : List Char → Option (Bool × List Char)
  | '-' :: ds => if isDigits ds then some (true, ds) else none
  | '+' :: ds => if isDigits ds then some (false, ds) else none
  | ds => if isDigits ds then some (false, ds) else none

/-- The rest of a literal after its fraction or its whole digits: nothing, or an
exponent. -/
def tail? : List Char → Option (Option (Bool × List Char))
  | [] => some none
  | c :: cs => if c = 'e' ∨ c = 'E' then (exponentPart? cs).map some else none

/-- An unsigned literal: whole digits, then a fraction or none, then an exponent or none. -/
def unsigned? (negative : Bool) (cs : List Char) : Option Literal := do
  let whole := cs.takeWhile Char.isDigit
  guard (isWhole whole)
  match cs.dropWhile Char.isDigit with
  | '.' :: rest =>
    let fraction := rest.takeWhile Char.isDigit
    guard (isDigits fraction)
    return { negative, whole, fraction := some fraction,
             exponent := ← tail? (rest.dropWhile Char.isDigit) }
  | rest => return { negative, whole, fraction := none, exponent := ← tail? rest }

/-- The parts of a literal, if the characters form one. -/
def literal? : List Char → Option Literal
  | '-' :: cs => unsigned? true cs
  | cs => unsigned? false cs

/-- The value of a decimal digit. -/
def digitValue (c : Char) : Nat := c.toNat - '0'.toNat

/-- Appends decimal digits to a significand for as long as it stays below `2 ^ 64`. Gives
the significand and how many digits it took in. -/
def absorb : Nat → List Char → Nat × Nat
  | acc, [] => (acc, 0)
  | acc, d :: ds =>
    let next := acc * 10 + digitValue d
    if next < 18446744073709551616 then ((absorb next ds).1, (absorb next ds).2 + 1) else (acc, 0)

/-- The natural number a digit list denotes. -/
def natural (ds : List Char) : Nat := ds.foldl (fun n d => n * 10 + digitValue d) 0

/-- The decimal exponent that an exponent part adds. -/
def exponentValue : Option (Bool × List Char) → Int
  | none => 0
  | some (true, ds) => -(natural ds : Int)
  | some (false, ds) => natural ds

namespace Literal

/-- A whole literal whose digits fit the significand: an integer, or the binary64 number
if it is a negative zero or below `-2 ^ 63`. -/
def whole? (negative : Bool) (n : Nat) : Option Number :=
  if negative then
    if n = 0 ∨ 9223372036854775808 < n then (Binary64.scaled? true n 0).map float
    else some (integer (-n))
  else some (integer n)

/-- The number a literal denotes. Whole digits that no longer fit the significand count as
powers of ten, fraction digits that no longer fit are dropped. -/
def number? (l : Literal) : Option Number :=
  let (significand, taken) := absorb 0 l.whole
  let dropped := l.whole.length - taken
  if l.fraction.isNone ∧ l.exponent.isNone ∧ dropped = 0 then
    whole? l.negative significand
  else
    let (significand, places) := absorb significand (l.fraction.getD [])
    let exponent := (dropped : Int) - places + exponentValue l.exponent
    (Binary64.scaled? l.negative significand exponent).map float

end Literal

/-! ### Writing -/

/-- How a binary64 number is laid out: `0.d₁d₂… * 10 ^ k` is written positionally when `k`
lies between the bounds, otherwise in scientific notation. -/
structure FloatLayout where
  leastPositional : Int
  greatestPositional : Int

/-- Numbers from `0.00001` up to below `10 ^ 16` are written positionally. -/
def floatLayout : FloatLayout := ⟨-4, 16⟩

/-- The decimal digits of a natural number. -/
def naturalDigits (n : Nat) : List Char := Nat.toDigits 10 n

/-- The literal of an integer. -/
def writeInteger : Int → List Char
  | .ofNat n => naturalDigits n
  | .negSucc n => '-' :: naturalDigits (n + 1)

/-- Positional notation of `0.ds * 10 ^ k`, always with a fraction. -/
def positional (ds : List Char) (k : Int) : List Char :=
  if k ≤ 0 then
    '0' :: '.' :: (List.replicate (-k).toNat '0' ++ ds)
  else if ds.length ≤ k.toNat then
    ds ++ List.replicate (k.toNat - ds.length) '0' ++ ['.', '0']
  else
    ds.take k.toNat ++ '.' :: ds.drop k.toNat

/-- Scientific notation `d.dd…e±x` of `0.ds * 10 ^ k`; the point is left out after a single
digit, and a positive exponent carries its sign. -/
def scientific (ds : List Char) (k : Int) : List Char :=
  let mantissa := match ds with
    | d :: e :: rest => d :: '.' :: e :: rest
    | _ => ds
  let x := k - 1
  mantissa ++ 'e' :: ((if 0 ≤ x then ['+'] else []) ++ writeInteger x)

/-- The literal of a magnitude: its shortest digits in the layout. -/
def writeMagnitude (layout : FloatLayout) (x : Binary64) : List Char :=
  if x.isZero then
    ['0', '.', '0']
  else
    let d := Shortest.decimal x
    let ds := naturalDigits d.digits
    let k := ds.length + d.power
    if layout.leastPositional ≤ k ∧ k ≤ layout.greatestPositional then positional ds k
    else scientific ds k

/-- The literal of a binary64 number. -/
def writeFloat (x : Binary64) : List Char :=
  (if x.negative then ['-'] else []) ++ writeMagnitude floatLayout x

/-- The literal a number is written as. -/
def write : Number → List Char
  | integer i => writeInteger i
  | float x => writeFloat x

/-! ### Spelled-out cases

What a literal is written as after it was read. -/

/-- Reads a literal and writes the number. -/
def respell? (literal : String) : Option String :=
  (((literal? literal.toList).bind Literal.number?).map write).map String.ofList

example : respell? "18446744073709551615" = some "18446744073709551615" := by decide +kernel
example : respell? "18446744073709551616" = some "1.8446744073709552e+19" := by decide +kernel
example : respell? "-9223372036854775809" = some "-9.223372036854776e+18" := by decide +kernel
example : respell? "-0" = some "-0.0" := by decide +kernel
example : respell? "1e2" = some "100.0" := by decide +kernel
example : respell? "1e15" = some "1000000000000000.0" := by decide +kernel
example : respell? "1e16" = some "1e+16" := by decide +kernel
example : respell? "0.00001" = some "0.00001" := by decide +kernel
example : respell? "0.000001" = some "1e-6" := by decide +kernel
example : respell? "3e-324" = some "5e-324" := by decide +kernel
example : respell? "1e-400" = some "0.0" := by decide +kernel
example : respell? "1e400" = none := by decide +kernel
example : respell? "01" = none := by decide +kernel
example : respell? "1." = none := by decide +kernel

end Number

end ConversionDesk.Json
