import PolicyRollout.Yaml.Token
/-!
Plain scalars.  A plain scalar ends before a comment, before a colon that a
gap follows, inside brackets before their punctuation, and where the
indentation falls back.
-/
namespace PolicyRollout.Yaml

open Document (Fault)

/-- Whether a character separates or closes collections in brackets. -/
def isFlowPunctuation (ch : Char) : Bool :=
  ch = ',' || ch = '[' || ch = ']' || ch = '\x7b' || ch = '\x7d'

/-- Whether a plain scalar ends before the next character; `inFlow` inside brackets. -/
def endsPlain (inFlow : Bool) (ch : Char) (c : Cursor) : Bool :=
  (ch = ':' && c.gapAhead 1) || (inFlow && isFlowPunctuation ch)

/-- Whether a colon stands inside brackets where it can belong to nothing. -/
def isStrayColon (inFlow : Bool) (ch : Char) (c : Cursor) : Bool :=
  inFlow && ch = ':' && (c.ahead 1).any fun next => isFlowPunctuation next || next = '?'

/-- The characters up to a gap or the end of the scalar, after `done`, which is
held last first. -/
def takePlainRun (inFlow : Bool) : (fuel : Nat) → (done : List Char) → Cursor →
    Except Fault (List Char × Cursor)
  | 0, done, c => .ok (done, c)
  | fuel + 1, done, c =>
    match c.rest with
    | [] => .ok (done, c)
    | ch :: _ =>
      if isGap ch then .ok (done, c)
      else if isStrayColon inFlow ch c then
        wrong "found unexpected ':'" "while scanning a plain scalar"
      else if endsPlain inFlow ch c then .ok (done, c)
      else takePlainRun inFlow fuel (ch :: done) (c.skip 1)

/-- The text of a plain scalar after `done`, which is held last first, and a
gap; and whether a break came after the text. -/
def takePlainText (inFlow : Bool) (indent : Nat) : (fuel : Nat) → (done : List Char) →
    Gap → Cursor → Except Fault ((List Char × Bool) × Cursor)
  | 0, done, gap, c => .ok ((done.reverse, gap.broken), c)
  | fuel + 1, done, gap, c =>
    if c.atDocumentMarker || c.has 0 '#' then .ok ((done.reverse, gap.broken), c)
    else match takePlainRun inFlow c.limit [] c with
      | .error f => .error f
      | .ok (run, next) =>
        let ended := run.isEmpty
        let done := if ended then done else run ++ gap.text.reverse ++ done
        let broken := if ended then gap.broken else false
        if !(next.ahead 0).any isGap then .ok ((done.reverse, broken), next)
        else
          let mayTab (column : Nat) : Bool := indent ≤ column
          match takeGap mayTab next.limit .none next with
          | none => wrong "found a tab character that violates indentation"
              "while scanning a plain scalar"
          | some (gap, next) =>
            if !inFlow && next.column < indent then .ok ((done.reverse, gap.broken), next)
            else takePlainText inFlow indent fuel done gap next

/-- A plain scalar whose later lines are indented by at least `indent`; and
whether a break came after it. -/
def takePlain (inFlow : Bool) (indent : Nat) (c : Cursor) :
    Except Fault ((Token × Bool) × Cursor) := do
  let ((text, broken), c) ← takePlainText inFlow indent c.limit [] .none c
  return ((.scalar text .plain, broken), c)

end PolicyRollout.Yaml
