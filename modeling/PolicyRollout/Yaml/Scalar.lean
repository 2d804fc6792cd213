import PolicyRollout.Yaml.Token
/-!
What scalars stand for.  A plain scalar without a tag may be an absent value, a
truth value or a number; any scalar may be taken for a text.
-/
namespace PolicyRollout.Yaml

open Document (Found Presence)

/-- Whether a text is a name of the absent value. -/
def isNullName (cs : List Char) : Bool :=
  ["~", "null", "Null", "NULL"].contains (String.ofList cs)

/-- The truth value of a name. -/
def truth? (cs : List Char) : Option Bool :=
  if ["true", "True", "TRUE"].contains (String.ofList cs) then some true
  else if ["false", "False", "FALSE"].contains (String.ofList cs) then some false
  else none

/-- A text without a plus sign before it. -/
def dropPlus : List Char → List Char
  | '+' :: rest => rest
  | cs => cs

def beginsWithSign : List Char → Bool
  | '+' :: _ | '-' :: _ => true
  | _ => false

/-- Whether a text is digits with a needless zero before them, which makes it no number. -/
def hasNeedlessZero (cs : List Char) : Bool :=
  let digits := if beginsWithSign cs then cs.tail else cs
  match digits with
  | '0' :: d :: rest => (d :: rest).all Char.isDigit
  | _ => false

/-- A natural number after a mark for its base, if there is one. -/
def marked? : List Char → Option (Option Nat)
  | '0' :: 'x' :: rest => some (Text.natural? 16 rest)
  | '0' :: 'o' :: rest => some (Text.natural? 8 rest)
  | '0' :: 'b' :: rest => some (Text.natural? 2 rest)
  | _ => none

/-- The natural number of at most `limit` a text stands for. -/
def natural? (limit : Nat) (cs : List Char) : Option Nat :=
  let number := match marked? (dropPlus cs) with
    | some n => n
    | none => if hasNeedlessZero cs then none else Text.natural? 10 (dropPlus cs)
  number.filter (· ≤ limit)

/-- The absolute value, at most `limit`, of the integer a text with a minus sign stands for. -/
def negative? (limit : Nat) : List Char → Option Nat
  | '-' :: rest =>
    let number := match marked? rest with
      | some n => n
      | none => if hasNeedlessZero rest then none else Text.natural? 10 rest
    number.filter (· ≤ limit)
  | _ => none

def integer? (cs : List Char) : Option Found :=
  match natural? maxNatural64 cs, negative? (maxInteger64 + 1) cs with
  | some n, _ => some (.integer n)
  | none, some n => some (.integer (-(n : Int)))
  | none, none => match natural? maxNatural128 cs, negative? (maxInteger128 + 1) cs with
    | some n, _ => some (.wideInteger n)
    | none, some n => some (.wideInteger (-(n : Int)))
    | none, none => none

/-- The digits of a number and of how many of them come after the point; there must be one. -/
def splitPoint (cs : List Char) : Option (List Char × Nat) :=
  let (whole, rest) := Text.spanDigits cs
  let (digits, places, rest) := match rest with
    | '.' :: rest =>
      let (fraction, rest) := Text.spanDigits rest
      (whole ++ fraction, fraction.length, rest)
    | rest => (whole, 0, rest)
  if rest.isEmpty && !digits.isEmpty then some (digits, places) else none

/-- The power of ten a text stands for. -/
def power? (cs : List Char) : Option Int :=
  match cs with
  | '-' :: rest => (Text.natural? 10 rest).map fun n => -(n : Int)
  | rest => (Text.natural? 10 (dropPlus rest)).map fun n => (n : Int)

/-- The magnitude a decimal number stands for, if it can be represented. -/
def magnitude? (cs : List Char) : Option Binary64 := do
  let isMark (c : Char) : Bool := c = 'e' || c = 'E'
  let (digits, places) ← splitPoint (cs.takeWhile fun c => !isMark c)
  let power ← match cs.dropWhile fun c => !isMark c with
    | [] => some 0
    | _ :: rest => power? rest
  let n ← Text.natural? 10 digits
  Binary64.ofDecimal n (power - places)

def float? (cs : List Char) : Option Found :=
  let plain := dropPlus cs
  if plain.length < cs.length && beginsWithSign plain then none
  else if [".inf", ".Inf", ".INF"].contains (String.ofList plain) then some (.unbounded "inf")
  else if ["-.inf", "-.Inf", "-.INF"].contains (String.ofList cs) then some (.unbounded "-inf")
  else if [".nan", ".NaN", ".NAN"].contains (String.ofList cs) then some (.unbounded "NaN")
  else match plain with
    | '-' :: rest => (magnitude? rest).map fun x => .float (x.withSign true)
    | rest => (magnitude? rest).map .float

/-- What a scalar without a tag stands for. -/
def untagged (cs : List Char) : Found :=
  if cs.isEmpty || isNullName cs then .unit
  else match truth? cs with
    | some b => .boolean b
    | none => match integer? cs with
      | some n => n
      | none => match if hasNeedlessZero cs then none else float? cs with
        | some x => x
        | none => .text (String.ofList cs)

/-- The tags that promise something. -/
inductive Promise where
  | null
  | bool
  | int
  | float
deriving DecidableEq, Repr

namespace Promise

def tag : Promise → String
  | .null => "tag:yaml.org,2002:null"
  | .bool => "tag:yaml.org,2002:bool"
  | .int => "tag:yaml.org,2002:int"
  | .float => "tag:yaml.org,2002:float"

/-- What is promised, in words. -/
def name : Promise → String
  | .null => "null"
  | .bool => "a boolean"
  | .int => "an integer"
  | .float => "a float"

def ofTag? (tag : List Char) : Option Promise :=
  [null, bool, int, float].find? fun p => p.tag = String.ofList tag

/-- What a scalar stands for if it keeps a promise. -/
def keep? (p : Promise) (cs : List Char) : Option Found :=
  match p with
  | .null => if isNullName cs then some .unit else none
  | .bool => (truth? cs).map .boolean
  | .int => integer? cs
  | .float => float? cs

end Promise

/-- What a scalar stands for, and the promise its tag breaks. -/
def meaning (cs : List Char) (style : Style) (tag : Option (List Char)) :
    Found × Option Promise :=
  let text := Found.text (String.ofList cs)
  match tag with
  | none => (if style = .plain then untagged cs else text, none)
  | some t => match Promise.ofTag? t with
    | some p => match p.keep? cs with
      | some found => (found, none)
      | none => (text, some p)
    | none => (if t.head? = some '!' && style = .plain then untagged cs else text, none)

/-- Whether a scalar may be taken for what a tag promises, because it is plain
or because it is literal and has that tag. -/
def mayKeep (p : Promise) (style : Style) (tag : Option (List Char)) : Bool :=
  style = .plain || (style = .literal && tag.bind Promise.ofTag? = some p)

/-- Whether a scalar stands for an absent value. -/
def presence (cs : List Char) (style : Style) (tag : Option (List Char)) : Presence :=
  if style ≠ .plain then .present
  else match tag with
    | none => if cs.isEmpty || isNullName cs then .absent else .present
    | some t =>
      if Promise.ofTag? t = some .null then
        (if isNullName cs then .absent else .contradictory)
      else .present

/-- A scalar, by everything it can be taken for. -/
def scalar (cs : List Char) (style : Style) (tag : Option (List Char)) : Document.Scalar :=
  let (found, broken) := meaning cs style tag
  { found
    broken := broken.map Promise.name
    text? := some (String.ofList cs)
    bool? := if mayKeep .bool style tag then truth? cs else none
    integer? := if mayKeep .int style tag then (natural? maxNatural64 cs).map fun n => (n : Int)
      else none
    presence := presence cs style tag
    isEmpty := cs.isEmpty && style = .plain }

end PolicyRollout.Yaml
