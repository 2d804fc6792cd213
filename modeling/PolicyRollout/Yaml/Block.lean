import PolicyRollout.Yaml.Token
/-!
Block scalars.  The first non-empty line fixes the indentation unless it is
given; breaks are kept in a literal scalar and folded in a folded one, and the
last break is kept once, always, or never.
-/
namespace PolicyRollout.Yaml

open Document (Fault)

/-- What becomes of the breaks at the end of a block scalar. -/
inductive Chomping where
  | strip
  | clip
  | keep
deriving DecidableEq, Repr

/-- What is being read, in complaints. -/
def scanningBlock : String := "while scanning a block scalar"

/-- How a block scalar begins: what becomes of its end, and by how much it is
indented if that is given. -/
structure BlockHeader where
  chomping : Chomping
  increment : Option Nat

/-- A sign for the end of a block scalar. -/
def chomping? : Option Char → Option Chomping
  | some '+' => some .keep
  | some '-' => some .strip
  | _ => none

/-- A digit for the indentation of a block scalar. -/
def takeIncrement (c : Cursor) : Except Fault (Option Nat × Cursor) :=
  match (c.ahead 0).bind (Text.digit? 10) with
  | none => .ok (none, c)
  | some 0 => wrong "found an indentation indicator equal to 0" scanningBlock
  | some n => .ok (some n, c.skip 1)

/-- The sign and the digit at the beginning of a block scalar, in either order. -/
def takeIndicators (c : Cursor) : Except Fault (BlockHeader × Cursor) :=
  match chomping? (c.ahead 0) with
  | some chomping => do
    let (increment, c) ← takeIncrement (c.skip 1)
    return (⟨chomping, increment⟩, c)
  | none => do
    let (increment, c) ← takeIncrement c
    match increment, chomping? (c.ahead 0) with
    | some _, some chomping => return (⟨chomping, increment⟩, c.skip 1)
    | _, _ => return (⟨.clip, increment⟩, c)

/-- Blank lines and the indentation after them. -/
structure Margin where
  breaks : List Char
  /-- The greatest column reached by spaces. -/
  widest : Nat

/-- The blank lines that come next, and the spaces up to the indentation, or
all spaces as long as the indentation is unknown. -/
def takeMargin (indent : Option Nat) : (fuel : Nat) → Margin → Cursor →
    Except Fault (Margin × Cursor)
  | 0, m, c => .ok (m, c)
  | fuel + 1, m, c =>
    let spaces := (c.rest.takeWhile (· = ' ')).length
    let c := c.skip (match indent with
      | none => spaces
      | some n => min spaces (n - c.column))
    let m := { m with widest := max m.widest c.column }
    if c.has 0 '\t' && (match indent with
      | none => true
      | some n => c.column < n) then
      wrong "found a tab character where an indentation space is expected" scanningBlock
    else if (c.ahead 0).any isBreak then
      let (text, c) := c.takeBreak
      takeMargin indent fuel { m with breaks := m.breaks ++ text } c
    else .ok (m, c)

/-- The lines of a block scalar read so far. -/
structure BlockText where
  /-- The text, last character first. -/
  done : List Char
  /-- The break after the last line. -/
  lineBreak : List Char
  /-- The blank lines after it. -/
  blankLines : List Char
  /-- Whether the last line began with a blank. -/
  wasBlank : Bool

/-- The text with the breaks before a further line. -/
def BlockText.join (folded blank : Bool) (t : BlockText) : List Char :=
  if folded && t.lineBreak = ['\n'] && !t.wasBlank && !blank then
    (if t.blankLines.isEmpty then [' '] else t.blankLines.reverse) ++ t.done
  else t.blankLines.reverse ++ t.lineBreak.reverse ++ t.done

def takeBlockLines (folded : Bool) (indent : Nat) : (fuel : Nat) → BlockText → Cursor →
    Except Fault (BlockText × Cursor)
  | 0, t, c => .ok (t, c)
  | fuel + 1, t, c =>
    if c.column ≠ indent || c.rest.isEmpty then .ok (t, c)
    else do
      let blank := (c.ahead 0).any isBlank
      let done := t.join folded blank
      let (line, c) := c.span fun ch => !isBreak ch
      let (lineBreak, c) := c.takeBreak
      let (margin, c) ← takeMargin (some indent) c.limit ⟨[], 0⟩ c
      takeBlockLines folded indent fuel
        ⟨line.reverse ++ done, lineBreak, margin.breaks, blank⟩ c

/-- The text with what is kept of its end. -/
def BlockText.finish (chomping : Chomping) (t : BlockText) : List Char :=
  t.done.reverse ++ (match chomping with
    | .strip => []
    | .clip => t.lineBreak
    | .keep => t.lineBreak ++ t.blankLines)

/-- A block scalar inside a collection that is indented by `outer` columns, or inside none. -/
def takeBlock (folded : Bool) (outer : Option Nat) (c : Cursor) :
    Except Fault (Token × Cursor) := do
  let (header, c) ← takeIndicators (c.skip 1)
  let c := c.skipBlanks.skipComment
  if !c.atLineEnd then wrong "did not find expected comment or line break" scanningBlock
  else
    let c := c.skipBreak
    let given := header.increment.map (outer.getD 0 + ·)
    let (margin, c) ← takeMargin given c.limit ⟨[], 0⟩ c
    let least := match outer with
      | some n => n + 1
      | none => 1
    let indent := given.getD (max margin.widest least)
    let (text, c) ← takeBlockLines folded indent c.limit ⟨[], [], margin.breaks, false⟩ c
    return (.scalar (text.finish header.chomping) (if folded then .folded else .literal), c)

end PolicyRollout.Yaml
