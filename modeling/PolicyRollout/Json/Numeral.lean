import PolicyRollout.Document.Node
import PolicyRollout.Text.Utf8
/-!
Numerals of JSON text.  A numeral is read in two steps: its digits are taken
from the text by the grammar, and then weighed.  Integers of 64 bits are kept
exactly.  Any other numeral becomes a floating-point number: its leading
digits, as many as 64 bits hold, are rounded once, and scaled by a rounded
power of ten, which is rounded again.
-/
namespace PolicyRollout.Json

open Text (Symbol)
open Document (Fault Break)

structure Numeral where
  negative : Bool
  whole : List Char
  /-- The digits after the point, if there is a point. -/
  fraction : Option (List Char)
  /-- The power of ten, if there is one: whether it is negative, and its digits. -/
  power : Option (Bool × List Char)
deriving DecidableEq, Repr

def takeDigits : List Symbol → List Char × List Symbol
  | .char c :: rest =>
    if c.isDigit then
      let (digits, after) := takeDigits rest
      (c :: digits, after)
    else ([], .char c :: rest)
  | rest => ([], rest)

def wantDigit : List Symbol → Break
  | [] => ⟨.endInValue, .badNumber⟩
  | _ => .at .badNumber

def takeFraction : List Symbol → Except Break (Option (List Char) × List Symbol)
  | .char '.' :: rest =>
    match takeDigits rest with
    | ([], after) => .error (wantDigit after)
    | (digits, after) => .ok (some digits, after)
  | rest => .ok (none, rest)

/-- A sign, which may be left out, and the rest. -/
def takeSign : List Symbol → Bool × List Symbol
  | .char '-' :: rest => (true, rest)
  | .char '+' :: rest => (false, rest)
  | rest => (false, rest)

/-- The power of ten after an `e`. -/
def takePower : List Symbol → Except Break (Option (Bool × List Char) × List Symbol)
  | .char c :: rest =>
    if c = 'e' || c = 'E' then
      let (negative, rest) := takeSign rest
      match takeDigits rest with
      | ([], after) => .error (wantDigit after)
      | (digits, after) => .ok (some (negative, digits), after)
    else .ok (none, .char c :: rest)
  | rest => .ok (none, rest)

/-- The digits before the point: a lone zero, or digits that begin with no zero. -/
def takeWhole (symbols : List Symbol) : Except Break (List Char × List Symbol) :=
  match takeDigits symbols with
  | ([], after) => .error (wantDigit after)
  | ('0' :: _ :: _, _) => .error (.at .badNumber)
  | (digits, after) => .ok (digits, after)

/-- The numeral a text begins with, after its sign. -/
def takeNumeral (negative : Bool) (symbols : List Symbol) :
    Except Break (Numeral × List Symbol) := do
  let (whole, rest) ← takeWhole symbols
  let (fraction, rest) ← takeFraction rest
  let (power, rest) ← takePower rest
  return (⟨negative, whole, fraction, power⟩, rest)

/-- Leading digits, as long as 64 bits hold the number, and how many digits are left. -/
def weigh : Nat → List Char → Nat × Nat
  | n, [] => (n, 0)
  | n, c :: rest =>
    let next := n * 10 + (c.toNat - 48)
    if next ≤ maxNatural64 then weigh next rest else (n, rest.length + 1)

/-- The power of ten with a natural exponent of at most 308. -/
def powerOfTen (k : Nat) : Binary64 :=
  (Binary64.nearest ⟨Nat.pow 10 k, 1⟩).getD (.zero false)

/-- A number times a power of ten; none when it is too great.  Below the least
power of ten the number is divided in several steps, and after three of them
nothing is left of it. -/
def scaleByTen (x : Binary64) (exponent : Int) : (steps : Nat) → Option Binary64
  | 0 => some x
  | steps + 1 =>
    if exponent.natAbs ≤ 308 then
      if 0 ≤ exponent then x.mul (powerOfTen exponent.natAbs)
      else x.div (powerOfTen exponent.natAbs)
    else if x.isZero then some x
    else if 0 ≤ exponent then none
    else do
      let smaller ← x.div (powerOfTen 308)
      scaleByTen smaller (exponent + 308) steps

/-- A natural number times a power of ten, rounded in two steps. -/
def scaled (significand : Nat) (exponent : Int) : Option Binary64 := do
  let x ← Binary64.ofNat significand
  scaleByTen x exponent 5

/-- The greatest power of ten that is weighed at all. -/
def maxPower : Nat := 0x7FFFFFFF

/-- The magnitude of a numeral that is no integer of 64 bits. -/
def Numeral.magnitude? (n : Numeral) : Option Binary64 :=
  let (whole, dropped) := weigh 0 n.whole
  let digits := n.fraction.getD []
  let (significand, ignored) := weigh whole digits
  let exponent : Int := (dropped : Int) - ((digits.length - ignored : Nat) : Int)
  match n.power with
  | none => scaled significand exponent
  | some (negative, power) =>
    let p := (Text.natural? 10 power).getD 0
    if maxPower < p then
      if significand ≠ 0 && !negative then none else some (.zero false)
    else scaled significand (if negative then exponent - p else exponent + p)

/-- The number a numeral stands for; none when it is too great. -/
def Numeral.value? (n : Numeral) : Option Number :=
  let float := n.magnitude?.map fun x => Number.float (x.withSign n.negative)
  match n.fraction, n.power, weigh 0 n.whole with
  | none, none, (significand, 0) =>
    if !n.negative then some (.natural significand)
    else if significand ≠ 0 && significand ≤ maxInteger64 + 1 then some (.negative significand)
    else float
  | _, _, _ => float

end PolicyRollout.Json
