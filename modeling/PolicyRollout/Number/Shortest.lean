import PolicyRollout.Number.Basic
import PolicyRollout.Text.Basic
/-!
The shortest decimal that reads back as a given binary number.  Of all
decimals that round to the number, those with the coarsest unit are taken, and
of these the one nearest to the number; a tie goes to the even one.
-/
namespace PolicyRollout

/-- A natural number times a power of ten. -/
structure Decimal where
  digits : Nat
  exponent : Int
deriving DecidableEq, Repr

namespace Binary64

/-- The midpoint to the next smaller magnitude, the number and the midpoint to
the next greater one, over one denominator. -/
structure Interval where
  low : Nat
  mid : Nat
  high : Nat
  den : Nat
  /-- Whether the ends belong to the interval. -/
  closed : Bool

/-- The reals that round to a magnitude which is not zero. -/
def interval (x : Binary64) : Interval :=
  let quarter := Ratio.scaled 1 (x.exponent - 2)
  let m := 4 * x.mantissa
  let below := if x.mantissa = leastNormal && minExponent < x.exponent then 1 else 2
  ⟨(m - below) * quarter.num, m * quarter.num, (m + 2) * quarter.num, quarter.den,
    x.mantissa % 2 == 0⟩

/-- Whether `q` units of `unit.num / unit.den` lie in the interval. -/
def Interval.holds (i : Interval) (unit : Ratio) (q : Nat) : Bool :=
  let at_ := q * unit.num * i.den
  let low := i.low * unit.den
  let high := i.high * unit.den
  if i.closed then low ≤ at_ && at_ ≤ high else low < at_ && at_ < high

def tenTo (exponent : Int) : Ratio :=
  match exponent with
  | .ofNat e => ⟨Nat.pow 10 e, 1⟩
  | .negSucc e => ⟨1, Nat.pow 10 (e + 1)⟩

/-- The multiple of a unit in the interval that is nearest to its middle. -/
def Interval.best? (i : Interval) (unit : Ratio) : Option Nat :=
  let mid := i.mid * unit.den
  let width := unit.num * i.den
  let q := mid / width
  let down := 0 < q && i.holds unit q
  let up := i.holds unit (q + 1)
  if down && up then
    let twice := 2 * (mid % width)
    if twice < width then some q
    else if width < twice then some (q + 1)
    else if q % 2 = 0 then some q else some (q + 1)
  else if down then some q
  else if up then some (q + 1)
  else none

/-- The first unit, from ten to the `exponent` downwards, with a multiple in the interval. -/
def Interval.search (i : Interval) : (steps : Nat) → (exponent : Int) → Decimal
  | 0, exponent => ⟨i.mid * (tenTo (-exponent)).num / i.den, exponent⟩
  | steps + 1, exponent =>
    match i.best? (tenTo exponent) with
    | some q => ⟨q, exponent⟩
    | none => i.search steps (exponent - 1)

/-- The number of decimal digits before the point, less one; not less than the truth. -/
def decimalExponent (i : Interval) : Int :=
  ((Nat.toDigits 10 i.high).length : Int) - ((Nat.toDigits 10 i.den).length : Int) + 1

/-- The shortest decimal that reads back as the magnitude. -/
def shortest (x : Binary64) : Decimal :=
  if x.isZero then ⟨0, 0⟩
  else
    let i := x.interval
    i.search 25 (decimalExponent i)

end Binary64

/-- Layouts of a decimal that is shown in full or with an exponent. -/
structure FloatLayout where
  /-- Decimal places the point may stand to the right of the first digit, exclusive. -/
  most : Int
  /-- Zeros that may stand between the point and the first digit, exclusive and negative. -/
  least : Int
  /-- Whether a plus sign stands before a positive exponent. -/
  plus : Bool

namespace Binary64

/-- All digits in their places, with the point and at least one digit after it. -/
def positional (d : Decimal) : List Char :=
  let digits := Text.decimal d.digits
  match d.exponent with
  | .ofNat e => digits ++ List.replicate e '0' ++ ['.', '0']
  | .negSucc e =>
    let places := e + 1
    if places < digits.length then
      digits.take (digits.length - places) ++ '.' :: digits.drop (digits.length - places)
    else '0' :: '.' :: List.replicate (places - digits.length) '0' ++ digits

/-- The first digit, the others after a point, and the power of ten. -/
def scientific (plus : Bool) (d : Decimal) : List Char :=
  let digits := Text.decimal d.digits
  let power : Int := d.exponent + digits.length - 1
  let shown := match digits with
    | first :: second :: rest => first :: '.' :: second :: rest
    | digits => digits
  let sign := if 0 ≤ power && plus then ['+'] else []
  shown ++ 'e' :: sign ++ (Text.integerText power).toList

/-- The text of a number in a layout; zero has its sign and one decimal place. -/
def render (layout : FloatLayout) (x : Binary64) : String :=
  let d := x.shortest
  let sign := if x.negative then ['-'] else []
  let point : Int := d.exponent + (Text.decimal d.digits).length
  let body :=
    if x.isZero then ['0', '.', '0']
    else if layout.least < point && point ≤ layout.most then positional d
    else scientific layout.plus d
  String.ofList (sign ++ body)

end Binary64

end PolicyRollout
