import PolicyRollout.Document.Node
/-!
A place in a YAML text, the classes of characters that matter there, and small
steps forward.  Lines end at any of five breaks; a carriage return and a line
feed together are one.
-/
namespace PolicyRollout.Yaml

open Document (Fault)

/-- What is left of a text, and where it begins. -/
structure Cursor where
  rest : List Char
  line : Nat
  column : Nat
  /-- The number of characters before. -/
  index : Nat
  /-- More characters than are left. -/
  limit : Nat
deriving DecidableEq, Repr

def isBreak (c : Char) : Bool :=
  c = '\n' || c = '\r' || c.toNat = 0x85 || c.toNat = 0x2028 || c.toNat = 0x2029

/-- Whether a character is a space or a tab. -/
def isBlank (c : Char) : Bool :=
  c = ' ' || c = '\t'

/-- Whether a character is a blank or breaks the line. -/
def isGap (c : Char) : Bool :=
  isBlank c || isBreak c

/-- Whether a character may stand in the name of an anchor or directive. -/
def isNameChar (c : Char) : Bool :=
  c.isAlphanum || c = '_' || c = '-'

/-- What goes wrong at a place, and what was being read there. -/
def wrong {α : Type} (problem context : String) : Except Fault α :=
  .error (.markup problem none (some context))

namespace Cursor

def start (text : List Char) : Cursor := ⟨text, 0, 0, 0, text.length + 2⟩

/-- The character `n` places ahead. -/
def ahead (n : Nat) (c : Cursor) : Option Char :=
  c.rest[n]?

/-- Whether a given character stands `n` places ahead. -/
def has (n : Nat) (ch : Char) (c : Cursor) : Bool :=
  c.ahead n = some ch

/-- Whether a blank, a break or the end of the text is `n` places ahead. -/
def gapAhead (n : Nat) (c : Cursor) : Bool :=
  match c.ahead n with
  | none => true
  | some ch => isGap ch

/-- Whether a break or the end of the text is next. -/
def atLineEnd (c : Cursor) : Bool :=
  match c.rest with
  | [] => true
  | ch :: _ => isBreak ch

/-- The place after `n` characters of the same line. -/
def skip (n : Nat) (c : Cursor) : Cursor :=
  { c with rest := c.rest.drop n, column := c.column + n, index := c.index + n }

/-- The longest run of characters with a property, none of which breaks the
line, and the place after it. -/
def span (p : Char → Bool) (c : Cursor) : List Char × Cursor :=
  let run := c.rest.takeWhile p
  (run, c.skip run.length)

def skipBlanks (c : Cursor) : Cursor :=
  (c.span isBlank).2

/-- The place after a comment, if one begins here. -/
def skipComment (c : Cursor) : Cursor :=
  if c.has 0 '#' then (c.span fun ch => !isBreak ch).2 else c

/-- The beginning of the next line, after a break of `n` characters. -/
def nextLine (n : Nat) (c : Cursor) : Cursor :=
  { c with rest := c.rest.drop n, line := c.line + 1, column := 0, index := c.index + n }

/-- The break that comes next, as the text it stands for, and the place after it. -/
def takeBreak (c : Cursor) : List Char × Cursor :=
  match c.rest with
  | '\r' :: '\n' :: _ => (['\n'], c.nextLine 2)
  | ch :: _ =>
    if isBreak ch then (if ch.toNat < 0x2000 then ['\n'] else [ch], c.nextLine 1)
    else ([], c)
  | [] => ([], c)

/-- The place after the break that comes next, if one does. -/
def skipBreak (c : Cursor) : Cursor :=
  c.takeBreak.2

/-- Whether three equal characters stand alone at the beginning of a line. -/
def atMarker (ch : Char) (c : Cursor) : Bool :=
  c.column = 0 && c.has 0 ch && c.has 1 ch && c.has 2 ch && c.gapAhead 3

/-- Whether a document begins or ends here by a marker. -/
def atDocumentMarker (c : Cursor) : Bool :=
  c.atMarker '-' || c.atMarker '.'

end Cursor

/-- A gap between two pieces of a scalar: blanks within a line, or breaks. -/
structure Gap where
  /-- Whether there is a break in the gap. -/
  broken : Bool
  blanks : List Char
  firstBreak : List Char
  laterBreaks : List Char
deriving DecidableEq, Repr

def Gap.none : Gap := ⟨false, [], [], []⟩

/-- What a gap stands for: a single break becomes a space, and of several the first is dropped. -/
def Gap.text (g : Gap) : List Char :=
  if !g.broken then g.blanks
  else if g.firstBreak = ['\n'] then
    (if g.laterBreaks.isEmpty then [' '] else g.laterBreaks)
  else g.firstBreak ++ g.laterBreaks

/-- The blanks and breaks that come next.  `mayTab` says whether a tab may
stand at a column after a break. -/
def takeGap (mayTab : Nat → Bool) : (fuel : Nat) → Gap → Cursor → Option (Gap × Cursor)
  | 0, g, c => some (g, c)
  | fuel + 1, g, c =>
    match c.rest with
    | [] => some (g, c)
    | ch :: _ =>
      if isBlank ch then
        if g.broken then
          if ch = '\t' && !mayTab c.column then .none
          else takeGap mayTab fuel g (c.skip 1)
        else takeGap mayTab fuel { g with blanks := g.blanks ++ [ch] } (c.skip 1)
      else if isBreak ch then
        let (text, c) := c.takeBreak
        if g.broken then takeGap mayTab fuel { g with laterBreaks := g.laterBreaks ++ text } c
        else takeGap mayTab fuel ⟨true, [], text, g.laterBreaks⟩ c
      else some (g, c)

end PolicyRollout.Yaml
