/-!
Sums of natural numbers, the limits of those that fit into words, and binary
floating-point numbers of 64 bits without the infinities: a sign and a magnitude
`mantissa * 2 ^ exponent`.  Every operation on these rounds the exact quotient
of two natural numbers to the nearest representable magnitude, a tie to the
even mantissa.
-/
namespace PolicyRollout

def total : List Nat → Nat
  | [] => 0
  | n :: rest => n + total rest

def maxNatural64 : Nat := 0xFFFFFFFFFFFFFFFF

/-- The greatest integer of 64 bits; the least one is one further from zero. -/
def maxInteger64 : Nat := 0x7FFFFFFFFFFFFFFF

def maxNatural128 : Nat := 0xFFFFFFFFFFFFFFFFFFFFFFFFFFFFFFFF

/-- The greatest integer of 128 bits; the least one is one further from zero. -/
def maxInteger128 : Nat := 0x7FFFFFFFFFFFFFFFFFFFFFFFFFFFFFFF

/-- A sign and a magnitude.  The mantissa has at most 53 bits and the exponent
is at least -1074; a mantissa of fewer than 53 bits has that least exponent. -/
structure Binary64 where
  negative : Bool
  mantissa : Nat
  exponent : Int
deriving DecidableEq, Repr

namespace Binary64

def minExponent : Int := -1074

def maxExponent : Int := 971

/-- The least mantissa of 53 bits. -/
def leastNormal : Nat := 0x10000000000000

/-- Zero, with its sign. -/
def zero (negative : Bool) : Binary64 :=
  ⟨negative, 0, minExponent⟩

def isZero (x : Binary64) : Bool :=
  x.mantissa == 0

def withSign (negative : Bool) (x : Binary64) : Binary64 :=
  { x with negative }

structure Ratio where
  num : Nat
  den : Nat

/-- A natural number times a power of two, as a quotient. -/
def Ratio.scaled (n : Nat) (exponent : Int) : Ratio :=
  match exponent with
  | .ofNat e => ⟨n * Nat.pow 2 e, 1⟩
  | .negSucc e => ⟨n, Nat.pow 2 (e + 1)⟩

def ratio (x : Binary64) : Ratio :=
  .scaled x.mantissa x.exponent

/-- The quotient of natural numbers nearest to `num / den`, a tie to the even one. -/
def roundDiv (num den : Nat) : Nat :=
  let q := num / den
  let r := num % den
  if 2 * r < den then q
  else if den < 2 * r then q + 1
  else if q % 2 = 0 then q else q + 1

/-- The exponent at which a positive quotient has a mantissa of 53 bits, or the least one. -/
def exponentFor (r : Ratio) : Int :=
  let guess : Int := (Nat.log2 r.num : Int) - (Nat.log2 r.den : Int) - 53
  let scaled := Ratio.scaled r.den (guess + 53)
  let exact := if r.num * scaled.den < scaled.num then guess else guess + 1
  max exact minExponent

/-- The representable magnitude nearest to a quotient; none when it would be too great. -/
def nearest (r : Ratio) : Option Binary64 :=
  if r.num = 0 then some (zero false)
  else
    let e := exponentFor r
    let step := Ratio.scaled 1 e
    let m := roundDiv (r.num * step.den) (r.den * step.num)
    let rounded : Binary64 := if m = 2 * leastNormal then ⟨false, leastNormal, e + 1⟩ else ⟨false, m, e⟩
    if rounded.exponent ≤ maxExponent then some rounded else none

/-- The rounded product; none when it is too great. -/
def mul (x y : Binary64) : Option Binary64 :=
  let a := x.ratio
  let b := y.ratio
  (nearest ⟨a.num * b.num, a.den * b.den⟩).map (withSign (x.negative != y.negative))

/-- The rounded quotient by a number that is not zero; none when it is too great. -/
def div (x y : Binary64) : Option Binary64 :=
  let a := x.ratio
  let b := y.ratio
  (nearest ⟨a.num * b.den, a.den * b.num⟩).map (withSign (x.negative != y.negative))

/-- The natural number, rounded; none when it is too great. -/
def ofNat (n : Nat) : Option Binary64 :=
  nearest ⟨n, 1⟩

/-- A natural number times a power of ten, correctly rounded; none when it is
too great.  A number of so many digits that it must vanish is zero. -/
def ofDecimal (digits : Nat) (exponent : Int) : Option Binary64 :=
  if digits = 0 then some (zero false)
  else match exponent with
  | .ofNat e => if 310 < e then none else nearest ⟨digits * Nat.pow 10 e, 1⟩
  | .negSucc e =>
    if (Nat.toDigits 10 digits).length + 400 < e + 1 then some (zero false)
    else nearest ⟨digits, Nat.pow 10 (e + 1)⟩

end Binary64

end PolicyRollout
