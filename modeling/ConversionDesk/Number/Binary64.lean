/-!
# Finite binary64 numbers

A finite binary floating-point number of 53 significant bits, kept as a sign and the
word of its magnitude, so that every value has exactly one representation and
equality is decidable by comparing data. Arithmetic is exact on natural numbers and
rounds once, to the nearest value, a tie going to the even significand.

## Main definitions

* `Binary64` — sign and magnitude word
* `Binary64.significand`, `Binary64.exponent` — the magnitude is
  `significand * 2 ^ exponent`
* `Binary64.nearest?` — the number nearest to a ratio of naturals times a power of two
* `Binary64.mul?`, `Binary64.div?` — product and quotient, rounded once
* `Binary64.scaled?` — a natural number times a power of ten, rounded at each step
-/

namespace ConversionDesk

/-- A finite number: its sign and the word that encodes its magnitude. Words grow with
the magnitude; the largest finite magnitude has the word `2047 * 2 ^ 52 - 1`. -/
structure Binary64 where
  negative : Bool
  word : Fin (2047 * Nat.pow 2 52)
deriving DecidableEq, Repr

namespace Binary64

/-- Zero with the given sign. -/
def zero (negative : Bool) : Binary64 := ⟨negative, ⟨0, by decide⟩⟩

/-- Either zero. -/
def isZero (x : Binary64) : Bool := x.word.val == 0

/-- Numeric equality: the two zeros are the same number. -/
def sameNumber (x y : Binary64) : Bool := x == y || (x.isZero && y.isZero)

/-- The integer significand. Words below `2 ^ 52` are subnormal and lack the hidden bit. -/
def significand (x : Binary64) : Nat :=
  if x.word.val < Nat.pow 2 52 then x.word.val else Nat.pow 2 52 + x.word.val % Nat.pow 2 52

/-- The power of two that scales the significand. -/
def exponent (x : Binary64) : Int := (max (x.word.val / Nat.pow 2 52) 1 : Nat) - 1075

/-- The natural number nearest to `num / den`; a half goes to the even neighbour. -/
def roundHalfEven (num den : Nat) : Nat :=
  let low := num / den
  let twice := 2 * (num % den)
  if twice < den || (twice == den && low % 2 == 0) then low else low + 1

/-- The greatest `e` with `2 ^ e ≤ num / den`, for positive `num` and `den`. -/
def floorLog (num den : Nat) : Int :=
  let e : Int := (num.log2 : Int) - den.log2
  if den * Nat.pow 2 e.toNat ≤ num * Nat.pow 2 (-e).toNat then e else e - 1

/-- The number nearest to `num / den * 2 ^ shift`, ties to even; `none` if it is beyond
the finite range. The word of `r * 2 ^ q` is `(q + 1074) * 2 ^ 52 + r`, also when
rounding has carried `r` to the next power of two. -/
def nearest? (negative : Bool) (num den : Nat) (shift : Int) : Option Binary64 :=
  if num = 0 then
    some (zero negative)
  else
    let num := num * Nat.pow 2 shift.toNat
    let den := den * Nat.pow 2 (-shift).toNat
    let q := max (floorLog num den - 52) (-1074)
    let r := roundHalfEven (num * Nat.pow 2 (-q).toNat) (den * Nat.pow 2 q.toNat)
    let word := (q + 1074).toNat * Nat.pow 2 52 + r
    if h : word < 2047 * Nat.pow 2 52 then some ⟨negative, ⟨word, h⟩⟩ else none

/-- The number nearest to a natural number. -/
def ofNat? (n : Nat) : Option Binary64 := nearest? false n 1 0

/-- The product, rounded once. -/
def mul? (x y : Binary64) : Option Binary64 :=
  nearest? (x.negative != y.negative) (x.significand * y.significand) 1
    (x.exponent + y.exponent)

/-- The quotient by a number other than zero, rounded once. -/
def div? (x y : Binary64) : Option Binary64 :=
  nearest? (x.negative != y.negative) x.significand y.significand
    (x.exponent - y.exponent)

/-- The number with the sign replaced. -/
def withSign (negative : Bool) (x : Binary64) : Binary64 := { x with negative }

/-- The number nearest to a power of ten. -/
def powerOfTen? (k : Nat) : Option Binary64 := ofNat? (Nat.pow 10 k)

/-- The greatest finite power of ten is `10 ^ 308`. -/
def maxPower : Nat := 308

/-- A magnitude divided by `10 ^ 308` as often as `strides` says, for as long as anything is
left of it, and then by `10 ^ rest`. -/
def lowered? (rest : Nat) : Nat → Binary64 → Option Binary64
  | 0, x => (powerOfTen? rest).bind x.div?
  | strides + 1, x =>
    if x.isZero then some x
    else ((powerOfTen? maxPower).bind x.div?).bind (lowered? rest strides)

/-- `x * 10 ^ e` for a magnitude `x`, by one multiplication or division with a rounded
power of ten; exponents below `-308` take further divisions by `10 ^ 308`. -/
def timesPower? (x : Binary64) (e : Int) : Option Binary64 :=
  if x.isZero then
    some x
  else if 0 ≤ e then
    if e.toNat ≤ maxPower then (powerOfTen? e.toNat).bind x.mul? else none
  else
    let strides := ((-e).toNat - 1) / maxPower
    lowered? ((-e).toNat - strides * maxPower) strides x

/-- The significand is rounded first and then scaled by the power of ten, so the result
may differ in the last bit from the number nearest to `significand * 10 ^ e`. -/
def scaled? (negative : Bool) (significand : Nat) (e : Int) : Option Binary64 :=
  ((ofNat? significand).bind (timesPower? · e)).map (withSign negative)

end Binary64

end ConversionDesk
