import PolicyRollout.Platform.Call
import PolicyRollout.Text.Basic
/-!
Which events are logged.  A filter is a list of rules written with commas: each
names a part of the program and how much of it is logged, and the rule with the
longest name that fits an event decides.  Events that no rule fits are logged
unless they are only of interest when faults are sought.  Rules that make no
sense are passed over.
-/
namespace PolicyRollout.Cli

/-- What is logged of the parts of the program whose names begin in a given way. -/
structure FilterRule where
  start : String
  /-- The rank of the least grave events that are logged. -/
  rank : Nat
deriving DecidableEq, Repr

/-- A filter of events, by its rules. -/
abbrev LogFilter := List FilterRule

namespace FilterRule

/-- The rank at which everything is logged. -/
def everything : Nat := 5

def rankNames : List (String × Nat) :=
  [("off", 0), ("error", 1), ("warn", 2), ("info", 3), ("debug", 4), ("trace", everything)]

/-- The rank a text names, by a number or in letters of either case. -/
def rank? (text : String) : Option Nat :=
  match Text.unsigned? everything text.toList with
  | some n => some n
  | none => (rankNames.find? (·.1 = String.ofList (text.toList.map Char.toLower))).map (·.2)

/-- The name before an equals sign, and the text after it. -/
def split (cs : List Char) : List Char × Option (List Char) :=
  match cs.dropWhile (· ≠ '=') with
  | [] => (cs, none)
  | _ :: level => (cs.takeWhile (· ≠ '='), some level)

/-- The rule a text stands for; a rule that names no part is none. -/
def ofText? (text : String) : Option FilterRule :=
  let (name, level) := split text.toList
  if name.isEmpty then none
  else match level with
    | none => if (rank? text).isSome then none else some ⟨text, everything⟩
    | some [] => some ⟨String.ofList name, everything⟩
    | some level => (rank? (String.ofList level)).map fun rank => ⟨String.ofList name, rank⟩

/-- Whether a rule is about a part of the program. -/
def fits (r : FilterRule) (target : String) : Bool :=
  r.start.toList.isPrefixOf target.toList

end FilterRule

namespace LogFilter

def ofText (text : String) : LogFilter :=
  (text.splitOn ",").filterMap FilterRule.ofText?

/-- The rule that decides, of one and those that follow it: the one with the
longest name, and of several the last. -/
def deciding? (target : String) : LogFilter → Option FilterRule
  | [] => none
  | rule :: rest =>
    match deciding? target rest with
    | none => if rule.fits target then some rule else none
    | some other =>
      if rule.fits target && other.start.length < rule.start.length then some rule
      else some other

/-- The rank up to which events of a part of the program are logged. -/
def rankOf (f : LogFilter) (target : String) : Nat :=
  ((deciding? target f).map (·.rank)).getD Level.info.rank

def admits (f : LogFilter) (e : Event) : Bool :=
  e.level.rank ≤ f.rankOf e.target

end LogFilter

/-- A character as it is logged; those that would command a terminal are written out. -/
def logChar (c : Char) : List Char :=
  let n := c.toNat
  if [0x07, 0x08, 0x0C, 0x1B, 0x7F].contains n then
    ['\\', 'x', Text.hexDigit (n / 16), Text.hexDigit n]
  else if 0x80 ≤ n && n < 0xA0 then
    ['\\', 'u', '\x7b', Text.hexDigit (n / 16), Text.hexDigit n, '\x7d']
  else [c]

def logLine (e : Event) : String :=
  Text.padLeft 5 e.level.name ++ " " ++ e.target ++ ": " ++
    String.ofList (e.message.toList.flatMap logChar)

end PolicyRollout.Cli
